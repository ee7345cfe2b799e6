import ChomskyChart.Proofs.Reading.Places

/-!
# Alternatives that are refused

An alternative that is neither one literal nor two symbols is refused when it is closed, and the
error has the line of the bar or the semicolon that closes it. This line is below the alternative
if a line feed stands between the two: then the error points at a line on which nothing of the
alternative stands.
-/
namespace ChomskyChart

/-- The alternative `alternative` of the rule `key` is refused. The lexemes before it are complete
rules and what was read of this rule, up to its `:=` or to a bar; `mark` is the bar or the semicolon
that closes it. -/
structure Offence (items : List Located) (key : String) (before alternative : List Located)
    (mark : Located) : Prop where
  items_eq : ∃ after, items = before ++ alternative ++ mark :: after
  inRule : ∃ (done : List Lexeme) (ps : List Production) (closed : List Alternative),
    GrammarForm done ps ∧ before.map (·.lexeme) =
      done ++ ([.symbol key, .becomes] ++ closed.flatMap (·.lexemes ++ [.bar]))
  isContent : ∀ x ∈ alternative, x.lexeme.IsContent
  malformed : ∀ literals pairs, ¬ AlternativeForm (alternative.map (·.lexeme)) literals pairs
  closing : mark.lexeme = .bar ∨ mark.lexeme = .semicolon

variable {text : String} {e : GrammarError} {items taken more before alternative : List Located}
  {mark x : Located} {rules : List Rule} {stage : Rule.Stage} {key : String} {line : Nat}

theorem offence_of_take {pending : List Lexeme} (hitems : items = taken ++ x :: more)
    (hreads : Rule.Reads taken rules stage)
    (h : stage.take x = .error (.notChomskyNormal line key pending)) :
    ∃ before alternative, Offence items key before alternative x ∧
      alternative.map (·.lexeme) = pending ∧ x.line = line := by
  have hlexemes := hreads.lexemes_eq
  have hcontent := hreads.isContent_of_mem_pending
  cases Rule.Stage.refuses_of_take h with
  | @notChomskyNormal _ _ _ closed _ lexeme hmark hpending =>
    rw [Rule.Stage.lexemes, ← List.append_assoc, List.map_eq_append_iff] at hlexemes
    obtain ⟨before, alternative, rfl, hbefore, rfl⟩ := hlexemes
    refine ⟨before, alternative, ⟨⟨more, hitems⟩, ?_, ?_, ?_, hmark⟩, rfl, rfl⟩
    · exact ⟨_, _, closed, grammarForm_iff.mpr ⟨rules, rfl, rfl⟩, hbefore⟩
    · exact fun y hy => hcontent y.lexeme (List.mem_map_of_mem hy)
    · intro literals pairs hform
      obtain ⟨a, ha, -⟩ := Alternative.exists_of_form hform
      exact hpending a ha.symm

namespace Grammar

/-- A text that is refused is at fault at a place that the error is about, or for an alternative. -/
theorem blames_or_offends_of_ofText (h : ofText text = .error e) :
    Blames text.toList e ∨
      ∃ key before alternative mark, Offence (Lexeme.scan text).items key before alternative mark ∧
        e = .notChomskyNormal mark.line key (alternative.map (·.lexeme)) := by
  have hrefused := ofRules_eq_error_iff.mp h
  have hends := Rule.ends_read (Lexeme.scan text)
  generalize Rule.read (Lexeme.scan text) = rules at hrefused hends
  cases hends with
  | refused hitems hreads htake =>
    rcases hrefused with hstored | ⟨-, hfault⟩
    · exact .inl (blames_of_addRule hitems hreads hstored)
    · cases hfault
      rcases blames_of_take hitems hreads htake with hblames | ⟨line, key, pending, rfl⟩
      · exact .inl hblames
      · obtain ⟨before, alternative, hoffence, rfl, rfl⟩ := offence_of_take hitems hreads htake
        exact .inr ⟨key, before, alternative, _, hoffence, rfl⟩
  | taken hreads =>
    rcases hrefused with hstored | ⟨-, hfault⟩
    · exact .inl (blames_of_addRule (List.append_nil _).symm hreads hstored)
    · cases hscan : (Lexeme.scan text).fault with
      | some e' =>
        rw [hscan] at hfault
        cases hfault
        exact .inl (blames_of_scan hscan)
      | none =>
        rw [hscan] at hfault
        exact .inl (blames_of_missing hscan hreads hfault)

end Grammar

/-! ## The lines of lexemes -/

namespace Located

/-- The lexeme has a character on the line. -/
def StandsOn (x : Located) (line : Nat) : Prop := x.line ≤ line ∧ line ≤ x.lastLine

instance (x : Located) (line : Nat) : Decidable (x.StandsOn line) :=
  inferInstanceAs (Decidable (x.line ≤ line ∧ line ≤ x.lastLine))

theorem line_le_lastLine (x : Located) : x.line ≤ x.lastLine := by
  obtain ⟨line, lexeme⟩ := x
  cases lexeme with
  | literal content => exact Nat.le_add_right line _
  | _ => exact Nat.le_refl line

end Located

theorem Lexeme.line_le_of_mem_scanFrom {cs : List Char} (hx : x ∈ (scanFrom line cs).items) :
    line ≤ x.line := by
  obtain ⟨before, after, hitems⟩ := List.append_of_mem hx
  have hscan : scanFrom line cs = ⟨before ++ x :: after, (scanFrom line cs).fault⟩ := by
    rw [← hitems]
  obtain ⟨front, gap, _, -, hcut⟩ := exists_cut hscan
  obtain ⟨_, _, -, hline, -⟩ := hcut.meets.cons_inv
  rw [hline]
  exact Nat.le_add_right line _

/-- No lexeme begins on a line before the one on which a lexeme in front of it ends. -/
theorem lastLine_le_line (h : (Lexeme.scan text).items = before ++ x :: more) :
    ∀ y ∈ more, x.lastLine ≤ y.line := by
  intro y hy
  obtain ⟨front, gap, _, -, hcut⟩ := exists_cut_scan h
  obtain ⟨word, rest, -, hline, hword, -, hscan⟩ := hcut.meets.cons_inv
  have hend : x.lastLine = 1 + (front ++ gap).count '\n' + word.count '\n' := by
    rw [← hline]
    exact hword.lastLine_eq x.line
  rw [hend]
  exact Lexeme.line_le_of_mem_scanFrom (by rwa [hscan])

/-- Of lexemes one after another the last one reaches farthest down. -/
theorem lastLine_le_lastLine {init : List Located}
    (h : (Lexeme.scan text).items = before ++ (init ++ [x]) ++ more) :
    ∀ y ∈ init ++ [x], y.lastLine ≤ x.lastLine := by
  intro y hy
  rcases List.mem_append.mp hy with hy | hy
  · obtain ⟨init, between, rfl⟩ := List.append_of_mem hy
    have hplace : (Lexeme.scan text).items = (before ++ init) ++ y :: (between ++ x :: more) := by
      rw [h]
      simp
    calc y.lastLine ≤ x.line := lastLine_le_line hplace x (by simp)
      _ ≤ x.lastLine := x.line_le_lastLine
  · obtain rfl := List.mem_singleton.mp hy
    exact Nat.le_refl _

/-! ## The line of the error -/

/-- In the text `x` stands behind the lexemes `xs`, and `gap` separates it from them. -/
def StandsBehind (text : List Char) (xs : List Located) (gap : List Char) (x : Located) : Prop :=
  ∃ front word rest, text = front ++ gap ++ word ++ rest ∧ Written (xs.map (·.lexeme)) front ∧
    Separator gap ∧ x.lexeme.WrittenAs word ∧ x.line = lineBehind (front ++ gap)

/-- Something of the alternative stands on the line of the bar or the semicolon that closes it if
and only if no line feed separates the two. -/
theorem Offence.exists_gap (h : Offence (Lexeme.scan text).items key before alternative mark)
    (hne : alternative ≠ []) :
    ∃ gap, StandsBehind text.toList (before ++ alternative) gap mark ∧
      ((∃ x ∈ alternative, x.StandsOn mark.line) ↔ '\n' ∉ gap) := by
  obtain ⟨after, hitems⟩ := h.items_eq
  obtain ⟨front, gap, _, htext, hcut⟩ := exists_cut_scan hitems
  obtain ⟨word, rest, rfl, hline, hword, -, -⟩ := hcut.meets.cons_inv
  rw [← List.append_assoc] at htext
  refine ⟨gap, ⟨front, word, rest, htext, hcut.written, hcut.separator, hword, hline⟩, ?_⟩
  obtain ⟨init, last, rfl⟩ := (List.eq_nil_or_concat' alternative).resolve_left hne
  have hlast : last.lastLine = 1 + front.count '\n' := by
    rw [← hcut.endLine, ← List.append_assoc, Rule.endLine_concat]
  -- the mark is as many lines below the end of the last lexeme as the separator has line feeds
  rw [List.count_append] at hline
  rw [← List.count_eq_zero]
  constructor
  · intro hstands
    obtain ⟨x, hx, -, hle⟩ := hstands
    have hbefore := lastLine_le_lastLine hitems x hx
    omega
  · intro hgap
    have hmark : mark.line = last.lastLine := by omega
    refine ⟨last, by simp, ?_⟩
    rw [hmark]
    exact ⟨last.line_le_lastLine, Nat.le_refl _⟩

namespace Grammar

/-- The line of an alternative that is refused is that of the bar or the semicolon that closes it,
and something of the alternative stands on this line if and only if no line feed is written between
the alternative and what closes it. -/
theorem standsOn_iff_of_ofText {alternative : List Lexeme}
    (h : ofText text = .error (.notChomskyNormal line key alternative)) (hne : alternative ≠ []) :
    ∃ (before located : List Located) (mark : Located) (gap : List Char),
      Offence (Lexeme.scan text).items key before located mark ∧
      located.map (·.lexeme) = alternative ∧ mark.line = line ∧
      StandsBehind text.toList (before ++ located) gap mark ∧
      ((∃ x ∈ located, x.StandsOn line) ↔ '\n' ∉ gap) := by
  rcases blames_or_offends_of_ofText h with hblames | ⟨key, before, located, mark, hoffence, he⟩
  · cases hblames
  · cases he
    have hlocated : located ≠ [] := by simpa using hne
    obtain ⟨gap, hbehind, hstands⟩ := hoffence.exists_gap hlocated
    exact ⟨before, located, mark, gap, hoffence, rfl, rfl, hbehind, hstands⟩

/-- The alternative stands on two lines, and the comment behind it goes on to the end of the second
one. -/
theorem standsOn_iff_of_ofText_comment :
    ofText "S := A\n  'b' # ;\n  | B C ;" =
        .error (.notChomskyNormal 3 "S" [.symbol "A", .literal "b"]) ∧
      [Lexeme.symbol "A", .literal "b"] ≠ [] ∧
      ∃ (before located : List Located) (mark : Located) (gap : List Char),
        Offence (Lexeme.scan "S := A\n  'b' # ;\n  | B C ;").items "S" before located mark ∧
        located.map (·.lexeme) = [.symbol "A", .literal "b"] ∧ mark.line = 3 ∧
        StandsBehind "S := A\n  'b' # ;\n  | B C ;".toList (before ++ located) gap mark ∧
        ((∃ x ∈ located, x.StandsOn 3) ↔ '\n' ∉ gap) := by
  have hrefused : ofText "S := A\n  'b' # ;\n  | B C ;" =
      .error (.notChomskyNormal 3 "S" [.symbol "A", .literal "b"]) :=
    eq_error_iff_map_toList.mpr (by decide +kernel)
  exact ⟨hrefused, by decide, standsOn_iff_of_ofText hrefused (by decide)⟩

/-- An alternative of one symbol is refused with the line of the bar behind it, on which this symbol
does not stand. -/
theorem ofText_alternative_above :
    ofText "S := A\n  | B C ;" = .error (.notChomskyNormal 2 "S" [.symbol "A"]) ∧
      (Lexeme.scan "S := A\n  | B C ;").items =
        [⟨1, .symbol "S"⟩, ⟨1, .becomes⟩, ⟨1, .symbol "A"⟩, ⟨2, .bar⟩, ⟨2, .symbol "B"⟩,
          ⟨2, .symbol "C"⟩, ⟨2, .semicolon⟩] ∧
      ∀ x ∈ (Lexeme.scan "S := A\n  | B C ;").items, x.lexeme ∈ [Lexeme.symbol "A"] →
        ¬ x.StandsOn 2 :=
  ⟨eq_error_iff_map_toList.mpr (by decide +kernel), by decide +kernel, by decide +kernel⟩

end Grammar

end ChomskyChart
