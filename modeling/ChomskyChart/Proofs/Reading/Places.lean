import ChomskyChart.Proofs.Reading.Layout
import ChomskyChart.Proofs.Reading.Progress
import ChomskyChart.Proofs.Reading.Text

/-!
# Where a text is at fault

The line of an error is one more than the number of line feeds in front of the place that the error
is about: a character that begins nothing, a quote that is not closed, a lexeme that cannot stand
where it stands, the end of the last lexeme of a text that stops too early, or the name of a rule that
repeats another one. What is in front of the place writes the lexemes that were read before.
-/
namespace ChomskyChart

/-! ## Places -/

/-- The line of what stands behind `front`: lines are counted from one. -/
def lineBehind (front : List Char) : Nat := 1 + front.count '\n'

/-- Complete rules and the name of another one. -/
def BehindName (xs : List Lexeme) : Prop :=
  ∃ done ps key, GrammarForm done ps ∧ xs = done ++ [.symbol key]

/-- Complete rules and another one of which at least the end is missing: alternatives that are
closed by bars, and symbols and literals behind them. -/
def InBody (xs : List Lexeme) : Prop :=
  ∃ (done : List Lexeme) (ps : List Production) (key : String) (closed : List Alternative)
    (pending : List Lexeme), GrammarForm done ps ∧ (∀ x ∈ pending, x.IsContent) ∧
    xs = done ++ ([.symbol key, .becomes] ++ closed.flatMap (·.lexemes ++ [.bar]) ++ pending)

/-- The lexeme cannot stand behind these ones, where something else is expected. -/
inductive Misplaced : List Lexeme → Lexeme → Expected → Prop
  | ruleName {xs : List Lexeme} {ps : List Production} {x : Lexeme} (h : GrammarForm xs ps)
      (other : ∀ name, x ≠ .symbol name) : Misplaced xs x .ruleName
  | becomes {xs : List Lexeme} {x : Lexeme} (h : BehindName xs) (other : x ≠ .becomes) :
      Misplaced xs x .becomes
  | alternative {xs : List Lexeme} (h : InBody xs) : Misplaced xs .becomes .alternative

/-- No text ends behind these lexemes, since something is expected. -/
inductive Unfinished : List Lexeme → Expected → Prop
  | becomes {xs : List Lexeme} (h : BehindName xs) : Unfinished xs .becomes
  | semicolon {xs : List Lexeme} (h : InBody xs) : Unfinished xs .semicolon

/-- The error is about a place of the text, and has its line. -/
inductive Blames (text : List Char) : GrammarError → Prop
  | unexpectedChar {xs : List Lexeme} {front rest : List Char} {c : Char}
      (place : text = front ++ c :: rest) (before : Spaced xs front) (h : Lexeme.Stray c rest) :
      Blames text (.unexpectedChar (lineBehind front) c)
  | unclosedLiteral {xs : List Lexeme} {front rest : List Char} {quote : Char}
      (place : text = front ++ quote :: rest) (before : Spaced xs front)
      (hquote : quote = '"' ∨ quote = '\'')
      (h : ∀ content word after, InQuotes quote content word → rest ≠ word ++ quote :: after) :
      Blames text (.unclosedLiteral (lineBehind front))
  | unexpectedLexeme {xs : List Lexeme} {front word rest : List Char} {x : Lexeme}
      {expected : Expected} (place : text = front ++ word ++ rest) (before : Spaced xs front)
      (written : x.WrittenAs word) (ends : x.EndsBefore rest) (h : Misplaced xs x expected) :
      Blames text (.unexpectedLexeme (lineBehind front) x expected)
  | unexpectedEnd {xs : List Lexeme} {front gap rest : List Char} {expected : Expected}
      (place : text = front ++ gap ++ rest) (before : Written xs front)
      (separator : Separator gap) (remainder : Remainder rest) (h : Unfinished xs expected) :
      Blames text (.unexpectedEnd (lineBehind front) expected)
  | invalid {done rule : List Lexeme} {ps qs : List Production} {front rest whole after : List Char}
      {key : String} {cause : GrammarError} (place : text = front ++ key.toList ++ rest)
      (before : Spaced done front) (ends : (Lexeme.symbol key).EndsBefore rest)
      (complete : GrammarForm done ps) (built : ∃ g, Grammar.build ps = .ok g)
      (extent : text = whole ++ after) (added : Written (done ++ .symbol key :: rule) whole)
      (form : RuleForm (.symbol key :: rule) qs) (h : Grammar.build (ps ++ qs) = .error cause) :
      Blames text (.invalid (lineBehind front) cause)

variable {text : String} {e : GrammarError}

namespace Rule

variable {xs : List Located} {rules : List Rule} {stage : Stage}

theorem Reads.grammarForm (h : Reads xs rules .start) :
    GrammarForm (xs.map (·.lexeme)) (rules.flatMap productions) :=
  grammarForm_iff.mpr ⟨rules, by simpa [Stage.lexemes] using h.lexemes_eq.symm, rfl⟩

theorem Reads.behindName {line : Nat} {key : String} (h : Reads xs rules (.named line key)) :
    BehindName (xs.map (·.lexeme)) :=
  ⟨_, _, key, grammarForm_iff.mpr ⟨rules, rfl, rfl⟩, h.lexemes_eq⟩

theorem Reads.inBody {line : Nat} {key : String} {closed : List Alternative}
    {pending : List Lexeme} (h : Reads xs rules (.body line key closed pending)) :
    InBody (xs.map (·.lexeme)) :=
  ⟨_, _, key, closed, pending, grammarForm_iff.mpr ⟨rules, rfl, rfl⟩, h.isContent_of_mem_pending,
    h.lexemes_eq⟩

end Rule

/-! ## Lexemes and their places -/

theorem Cut.spaced {line : Nat} {front gap rest : List Char} {before : List Located}
    {after : Reading Located} (h : Cut line front gap rest before after) :
    Spaced (before.map (·.lexeme)) (front ++ gap) :=
  ⟨front, gap, rfl, h.written, h.separator⟩

theorem exists_cut_scan {before after : List Located}
    (h : (Lexeme.scan text).items = before ++ after) :
    ∃ front gap rest, text.toList = front ++ gap ++ rest ∧
      Cut 1 front gap rest before ⟨after, (Lexeme.scan text).fault⟩ := by
  refine exists_cut ?_
  rw [← h]
  rfl

/-- A lexeme has the line of its first character. -/
theorem exists_place {before after : List Located} {x : Located}
    (h : (Lexeme.scan text).items = before ++ x :: after) :
    ∃ front word rest, text.toList = front ++ word ++ rest ∧
      Spaced (before.map (·.lexeme)) front ∧ x.lexeme.WrittenAs word ∧ x.lexeme.EndsBefore rest ∧
      x.line = lineBehind front := by
  obtain ⟨front, gap, _, htext, hcut⟩ := exists_cut_scan h
  obtain ⟨word, rest, rfl, hline, hword, hend, -⟩ := hcut.meets.cons_inv
  exact ⟨front ++ gap, word, rest, by simpa using htext, hcut.spaced, hword, hend, hline⟩

/-! ## Errors and their places -/

/-- The scanner fails at a character that begins nothing or at a quote that is not closed. -/
theorem blames_of_scan (h : (Lexeme.scan text).fault = some e) : Blames text.toList e := by
  obtain ⟨front, gap, rest, htext, hcut⟩ := exists_cut_scan (List.append_nil _).symm
  have hmeets := hcut.meets
  rw [h] at hmeets
  generalize hr : (⟨[], some e⟩ : Reading Located) = r at hmeets
  cases hmeets with
  | ending => cases congrArg Reading.fault hr
  | stray hstray =>
    cases congrArg Reading.fault hr
    exact .unexpectedChar htext hcut.spaced hstray
  | unclosed hquote hclose =>
    cases congrArg Reading.fault hr
    refine .unclosedLiteral htext hcut.spaced hquote ?_
    rintro content word after hword rfl
    have hkind : ∀ quote, quote = '"' ∨ quote = '\'' → quote ≠ '\\' := by simp
    rw [hword.closeLiteral_eq (hkind _ hquote)] at hclose
    cases hclose
  | lexeme => cases congrArg Reading.items hr

variable {taken more : List Located} {x : Located} {rules : List Rule} {stage : Rule.Stage}

/-- The reader refuses a lexeme for what it is or for the alternative that it closes. -/
theorem blames_of_take (hitems : (Lexeme.scan text).items = taken ++ x :: more)
    (hreads : Rule.Reads taken rules stage) (h : stage.take x = .error e) :
    Blames text.toList e ∨ ∃ line key alternative, e = .notChomskyNormal line key alternative := by
  obtain ⟨front, word, rest, htext, hfront, hword, hend, hline⟩ := exists_place hitems
  obtain ⟨line, lexeme⟩ := x
  obtain rfl : line = lineBehind front := hline
  cases Rule.Stage.refuses_of_take h with
  | ruleName hother =>
    exact .inl (.unexpectedLexeme htext hfront hword hend (.ruleName hreads.grammarForm hother))
  | becomes hother =>
    exact .inl (.unexpectedLexeme htext hfront hword hend (.becomes hreads.behindName hother))
  | alternative =>
    exact .inl (.unexpectedLexeme htext hfront hword hend (.alternative hreads.inBody))
  | notChomskyNormal => exact .inr ⟨_, _, _, rfl⟩

/-- A text that stops too early is at fault behind its last lexeme. -/
theorem blames_of_missing (hfault : (Lexeme.scan text).fault = none)
    (hreads : Rule.Reads (Lexeme.scan text).items rules stage)
    (h : stage.missing? (Rule.endLine 1 (Lexeme.scan text).items) = some e) :
    Blames text.toList e := by
  obtain ⟨front, gap, rest, htext, hcut⟩ := exists_cut_scan (List.append_nil _).symm
  have hrest := hcut.meets
  rw [hfault] at hrest
  have hplace : ∀ {expected : Expected},
      Unfinished ((Lexeme.scan text).items.map (·.lexeme)) expected →
      Blames text.toList (.unexpectedEnd (lineBehind front) expected) :=
    .unexpectedEnd htext hcut.written hcut.separator hrest.nil_inv
  rw [hcut.endLine] at h
  cases stage with
  | start => cases h
  | named line key =>
    cases h
    exact hplace (.becomes hreads.behindName)
  | body line key closed pending =>
    cases h
    exact hplace (.semicolon hreads.inBody)

/-- Rules are stored up to the first one that is refused, which fails with its line. -/
theorem exists_of_foldlM_addRule (h : rules.foldlM Builder.addRule {} = .error e) :
    ∃ earlier r later cause, rules = earlier ++ r :: later ∧ e = .invalid r.line cause ∧
      (∃ g, Grammar.build (earlier.flatMap Rule.productions) = .ok g) ∧
      Grammar.build (earlier.flatMap Rule.productions ++ r.productions) = .error cause := by
  obtain ⟨earlier, r, later, b, rfl, hearlier, hr⟩ := foldlM_eq_error_iff.mp h
  obtain ⟨cause, hcause, rfl⟩ := mapError_eq_error_iff.mp hr
  rw [Builder.foldlM_addRule_eq_ok_iff] at hearlier
  refine ⟨earlier, r, later, cause, rfl, rfl, ?_, ?_⟩
  · obtain ⟨hwf, hdistinct, -, -⟩ := Builder.foldlM_tryPush_eq_ok_iff.mp hearlier
    exact Grammar.exists_build_eq_ok_iff.mpr ⟨hwf, hdistinct⟩
  · rw [Grammar.build_eq_error_iff, List.foldlM_append, hearlier]
    exact hcause

/-- A rule that cannot be stored behind those before it is at fault where its name stands. -/
theorem blames_of_addRule (hitems : (Lexeme.scan text).items = taken ++ more)
    (hreads : Rule.Reads taken rules stage) (h : rules.foldlM Builder.addRule {} = .error e) :
    Blames text.toList e := by
  obtain ⟨earlier, r, later, cause, rfl, rfl, hbuilt, hrefused⟩ := exists_of_foldlM_addRule h
  obtain ⟨before, ⟨line, _⟩, tail, rest, rfl, hbefore, hrule, rfl⟩ := hreads.exists_rule
  obtain ⟨rfl, htail⟩ := List.cons.inj hrule
  have hname : (Lexeme.scan text).items =
      before ++ ⟨r.line, .symbol r.key⟩ :: (tail ++ rest ++ more) := by
    simpa using hitems
  have hwhole : (Lexeme.scan text).items =
      (before ++ ⟨r.line, .symbol r.key⟩ :: tail) ++ (rest ++ more) := by
    simpa using hitems
  obtain ⟨front, word, behind, htext, hfront, hword, hend, hline⟩ := exists_place hname
  obtain ⟨whole, gap, after, hextent, hcut⟩ := exists_cut_scan hwhole
  cases hword with
  | symbol =>
    have hform : GrammarForm (before.map (·.lexeme)) (earlier.flatMap Rule.productions) :=
      grammarForm_iff.mpr ⟨earlier, hbefore.symm, rfl⟩
    have hadded := hcut.written
    rw [List.map_append, List.map_cons, htail] at hadded
    have hline : r.line = lineBehind front := hline
    rw [hline]
    exact .invalid htext hfront hend hform hbuilt (by rw [hextent, List.append_assoc]) hadded
      r.form_lexemes hrefused

/-- A text that is refused for another reason than the form of an alternative is at fault at a place
that the error is about, and the line of the error is that of this place. -/
theorem Grammar.blames_of_ofText (h : ofText text = .error e)
    (hform : ∀ line key alternative, e ≠ .notChomskyNormal line key alternative) :
    Blames text.toList e := by
  have hrefused := ofRules_eq_error_iff.mp h
  have hends := Rule.ends_read (Lexeme.scan text)
  generalize Rule.read (Lexeme.scan text) = rules at hrefused hends
  cases hends with
  | refused hxs hreads htake =>
    rcases hrefused with hstored | ⟨-, hfault⟩
    · exact blames_of_addRule hxs hreads hstored
    · cases hfault
      rcases blames_of_take hxs hreads htake with hblames | ⟨line, key, alternative, he⟩
      · exact hblames
      · exact absurd he (hform line key alternative)
  | taken hreads =>
    rcases hrefused with hstored | ⟨-, hfault⟩
    · exact blames_of_addRule (List.append_nil _).symm hreads hstored
    · cases hscan : (Lexeme.scan text).fault with
      | some e' =>
        rw [hscan] at hfault
        cases hfault
        exact blames_of_scan hscan
      | none =>
        rw [hscan] at hfault
        exact blames_of_missing hscan hreads hfault

/-- The rule that is repeated stands behind a literal of two lines, a comment and an empty line. -/
theorem Grammar.blames_of_ofText_repeated :
    ofText "S := 'a\\\n' ; # ;\n\nS := 'a\\\n' ;" =
        .error (.invalid 4 (.duplicate (.terminal "S" ["a\\\n"]))) ∧
      Blames "S := 'a\\\n' ; # ;\n\nS := 'a\\\n' ;".toList
        (.invalid 4 (.duplicate (.terminal "S" ["a\\\n"]))) := by
  have hrefused : ofText "S := 'a\\\n' ; # ;\n\nS := 'a\\\n' ;" =
      .error (.invalid 4 (.duplicate (.terminal "S" ["a\\\n"]))) :=
    eq_error_iff_map_toList.mpr (by decide +kernel)
  exact ⟨hrefused, blames_of_ofText hrefused nofun⟩

end ChomskyChart
