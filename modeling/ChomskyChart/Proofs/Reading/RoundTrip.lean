import ChomskyChart.Proofs.Reading.Text
import Mathlib.Data.List.Forall2

/-!
# Writing productions as a text

A list of productions is written with each production as a rule on a line of its own. Reading
the text agrees with building a grammar from the list: both succeed with these productions, or
both fail at the same production, the text with the line on which this production is written.
-/
namespace ChomskyChart

theorem bodyLexemes_literals (literals : List String) :
    bodyLexemes (literals.map .literal) = (literals.map Lexeme.literal).intersperse .bar := by
  induction literals with
  | nil => rfl
  | cons l literals ih =>
    cases literals with
    | nil => rfl
    | cons m literals =>
      rw [List.map_cons, bodyLexemes_cons (by simp), ih]
      rfl

theorem symbol_notMem_literals (name : String) (literals : List String) :
    .symbol name ∉ (literals.map Lexeme.literal).intersperse .bar := by
  induction literals with
  | nil => simp
  | cons l literals ih => cases literals <;> simp_all

namespace Production

/-- A production as a rule of its own. -/
def lexemes (p : Production) : List Lexeme :=
  match p.body with
  | .terminal literals =>
    [.symbol p.key, .becomes] ++ (literals.map .literal).intersperse .bar ++ [.semicolon]
  | .nonterminal left right => [.symbol p.key, .becomes, .symbol left, .symbol right, .semicolon]

theorem lexemes_ne_nil (p : Production) : p.lexemes ≠ [] := by
  obtain ⟨key, body⟩ := p
  cases body <;> simp [lexemes]

/-- A production on a line of its own, with a blank between two lexemes. -/
def WrittenAs (p : Production) (line : List Char) : Prop :=
  ∃ words, List.Forall₂ Spells p.lexemes words ∧ line = [' '].intercalate words ++ ['\n']

theorem names_of_symbol_mem {p : Production} {name : String} (h : .symbol name ∈ p.lexemes) :
    name ∈ p.names := by
  obtain ⟨key, body⟩ := p
  cases body with
  | terminal literals => simpa [lexemes, symbol_notMem_literals, names] using h
  | nonterminal left right => simpa [lexemes, names] using h

/-- The rule as which a production is read. -/
def rule (p : Production) (line : Nat) : Rule :=
  match p.body with
  | .terminal literals => ⟨line, p.key, literals.map .literal⟩
  | .nonterminal left right => ⟨line, p.key, [.pair ⟨left, right⟩]⟩

theorem line_rule (p : Production) (line : Nat) : (p.rule line).line = line := by
  obtain ⟨key, body⟩ := p
  cases body <;> rfl

theorem lexemes_rule (p : Production) (line : Nat) : (p.rule line).lexemes = p.lexemes := by
  obtain ⟨key, body⟩ := p
  cases body with
  | terminal literals => rw [rule, Rule.lexemes, lexemes, bodyLexemes_literals]
  | nonterminal left right => rfl

theorem productions_rule (p : Production) (line : Nat) : (p.rule line).productions = [p] := by
  obtain ⟨key, body⟩ := p
  cases body with
  | terminal literals =>
    have hliterals : (rule ⟨key, .terminal literals⟩ line).literals = literals := by
      simp [rule, Rule.literals, List.filterMap_map, Function.comp_def, Alternative.literal?]
    have hpairs : (rule ⟨key, .terminal literals⟩ line).pairs = [] := by
      simp [rule, Rule.pairs, Alternative.pair?]
    rw [Rule.productions, hliterals, hpairs, if_pos (.inr rfl)]
    rfl
  | nonterminal left right => rfl

end Production

/-! ## Reading lines -/

variable {ps : List Production} {lines : List (List Char)} {line : Nat}

namespace Lexeme

/-- Words with blanks between them are read as the lexemes that they spell. -/
theorem scanFrom_words {lexemes : List Lexeme} {words : List (List Char)}
    (h : List.Forall₂ Spells lexemes words)
    (hsymbols : ∀ name, .symbol name ∈ lexemes → IsSymbol name) (line : Nat) (rest : List Char) :
    ∃ xs : List Located, xs.map (·.lexeme) = lexemes ∧ (∀ x ∈ xs.head?, x.line = line) ∧
      scanFrom line ([' '].intercalate words ++ '\n' :: rest) =
        xs.foldr Reading.cons
          (scanFrom (line + ([' '].intercalate words).count '\n' + 1) rest) := by
  have hblank : isSymbolChar ' ' = false := isSymbolChar_of_isWhiteSpace (by decide)
  have hnewline : isSymbolChar '\n' = false := isSymbolChar_of_isWhiteSpace (by decide)
  induction h generalizing line with
  | nil => exact ⟨[], rfl, by simp, scanFrom_newline⟩
  | @cons lexeme word lexemes words hword hwords ih =>
    have hsymbol : ∀ name, lexeme = .symbol name → IsSymbol name := fun name hname =>
      hsymbols name (by simp [hname])
    obtain ⟨xs, rfl, -, hscan⟩ := ih (fun name hname =>
      hsymbols name (List.mem_cons_of_mem lexeme hname)) (line + word.count '\n')
    refine ⟨⟨line, lexeme⟩ :: xs, rfl, by simp, ?_⟩
    by_cases hlast : words = []
    · subst hlast
      rw [List.intercalate_singleton, scanFrom_spelled hword hsymbol (by simpa using hnewline)]
      exact congrArg (Reading.cons ⟨line, lexeme⟩) hscan
    · have hcount : (word ++ [' '] ++ [' '].intercalate words).count '\n' =
          word.count '\n' + ([' '].intercalate words).count '\n' := by
        simp
      rw [List.intercalate_cons_of_ne_nil hlast, hcount, List.append_assoc, List.append_assoc,
        scanFrom_spelled hword hsymbol (by simpa using hblank), List.singleton_append,
        scanFrom_blank (by decide) (by decide), hscan, ← Nat.add_assoc]
      rfl

end Lexeme

/-- The rules as which productions are read, the first one on the given line. -/
def rulesFrom (line : Nat) : List Production → List (List Char) → List Rule
  | p :: ps, l :: ls => p.rule line :: rulesFrom (line + l.count '\n') ps ls
  | _, _ => []

/-- The rules of a row of lexemes that follows a rule which ends on line `here`. -/
def Rule.readAfter (here : Nat) (lexemes : Reading Located) : Reading Rule :=
  readFrom lexemes.fault here .start lexemes.items

/-- A line is read as the rule of its production, whatever follows. -/
theorem readAfter_line {p : Production} {l rest : List Char} {here : Nat} (h : p.WrittenAs l)
    (hnames : ∀ name ∈ p.names, IsSymbol name) :
    ∃ here', Rule.readAfter here (Lexeme.scanFrom line (l ++ rest)) =
      (Rule.readAfter here' (Lexeme.scanFrom (line + l.count '\n') rest)).cons (p.rule line) := by
  obtain ⟨words, hwords, rfl⟩ := h
  obtain ⟨xs, hxs, hline, hscan⟩ := Lexeme.scanFrom_words hwords
    (fun name hname => hnames name (Production.names_of_symbol_mem hname)) line rest
  have hne : xs ≠ [] := by
    rintro rfl
    exact p.lexemes_ne_nil hxs.symm
  obtain ⟨x, xs, rfl⟩ := List.exists_cons_of_ne_nil hne
  obtain rfl : x.line = line := hline x rfl
  have hcount : ([' '].intercalate words ++ ['\n']).count '\n' =
      ([' '].intercalate words).count '\n' + 1 := by
    simp
  refine ⟨Rule.endLine here (x :: xs), ?_⟩
  rw [List.append_assoc, List.singleton_append, hscan, Reading.foldr_cons, hcount, ← Nat.add_assoc]
  exact Rule.readFrom_rule (p.line_rule x.line).symm (hxs.trans (p.lexemes_rule x.line).symm)

/-- Lines are read as the rules of their productions. -/
theorem readAfter_lines (h : List.Forall₂ Production.WrittenAs ps lines)
    (hnames : ∀ p ∈ ps, ∀ name ∈ p.names, IsSymbol name) {here : Nat} :
    Rule.readAfter here (Lexeme.scanFrom line lines.flatten) = ⟨rulesFrom line ps lines, none⟩ := by
  induction h generalizing line here with
  | nil =>
    rw [List.flatten_nil, Lexeme.scanFrom]
    rfl
  | @cons p l ps lines hp hps ih =>
    obtain ⟨hfirst, hrest⟩ := List.forall_mem_cons.mp hnames
    rw [List.flatten_cons]
    obtain ⟨here', hread⟩ := readAfter_line hp hfirst
    rw [hread, ih hrest]
    rfl

/-! ## Building lines -/

theorem flatMap_productions_rulesFrom (h : ps.length = lines.length) :
    (rulesFrom line ps lines).flatMap Rule.productions = ps := by
  induction ps generalizing line lines with
  | nil => rfl
  | cons p ps ih =>
    obtain ⟨l, ls, rfl⟩ := List.exists_cons_of_length_eq_add_one h.symm
    rw [rulesFrom, List.flatMap_cons, p.productions_rule, ih (Nat.succ.inj h)]
    rfl

/-- The rule of a production stands on the line after those of the productions before it. -/
theorem rulesFrom_append {p : Production} {before after : List Production}
    (h : (before ++ p :: after).length = lines.length) :
    ∃ rest, rulesFrom line (before ++ p :: after) lines =
      rulesFrom line before (lines.take before.length) ++
        p.rule (line + (lines.take before.length).flatten.count '\n') :: rest := by
  induction before generalizing line lines with
  | nil =>
    obtain ⟨l, ls, rfl⟩ := List.exists_cons_of_length_eq_add_one h.symm
    exact ⟨_, rfl⟩
  | cons q before ih =>
    obtain ⟨l, ls, rfl⟩ := List.exists_cons_of_length_eq_add_one h.symm
    obtain ⟨rest, hrest⟩ := @ih ls (line + l.count '\n') (Nat.succ.inj h)
    refine ⟨rest, ?_⟩
    rw [List.cons_append, rulesFrom, hrest, List.length_cons, List.take_succ_cons, rulesFrom,
      List.flatten_cons, List.count_append, Nat.add_assoc]
    rfl

/-- A rule of its own is stored like its production, and fails with its line. -/
theorem Builder.addRule_rule (b : Builder) (p : Production) (line : Nat) :
    b.addRule (p.rule line) = (b.tryPush p).mapError (.invalid line) := by
  rw [addRule, p.productions_rule, p.line_rule, List.foldlM_cons]
  cases b.tryPush p <;> rfl

/-- The first production that is not stored fails with the line on which it is written. -/
theorem Builder.foldlM_addRule_rulesFrom {p : Production} {before after : List Production}
    {b b' : Builder} {e : GrammarError} (h : (before ++ p :: after).length = lines.length)
    (hbefore : before.foldlM tryPush b = .ok b') (hp : b'.tryPush p = .error e) :
    (rulesFrom line (before ++ p :: after) lines).foldlM addRule b =
      .error (.invalid (line + (lines.take before.length).flatten.count '\n') e) := by
  obtain ⟨rest, hrules⟩ := @rulesFrom_append lines line p before after h
  have hlength : before.length = (lines.take before.length).length := by
    rw [List.length_append] at h
    rw [List.length_take]
    omega
  have hstored : (rulesFrom line before (lines.take before.length)).foldlM addRule b = .ok b' := by
    rwa [foldlM_addRule_eq_ok_iff, flatMap_productions_rulesFrom hlength]
  refine foldlM_eq_error_iff.mpr ⟨_, _, rest, _, hrules, hstored, ?_⟩
  rw [addRule_rule, hp]
  rfl

namespace Grammar

theorem ofText_lines (hnames : ∀ p ∈ ps, ∀ name ∈ p.names, IsSymbol name)
    (h : List.Forall₂ Production.WrittenAs ps lines) :
    ofText (String.ofList lines.flatten) = ofRules ⟨rulesFrom 1 ps lines, none⟩ := by
  rw [ofText, Lexeme.scan, String.toList_ofList, ← readAfter_lines h hnames]
  rfl

/-- Productions that are written as a text are read if and only if a grammar can be built from
them. Otherwise the text fails with the error of the building, on the line on which the first
production that cannot be built is written. -/
theorem ofText_written (hnames : ∀ p ∈ ps, ∀ name ∈ p.names, IsSymbol name)
    (h : List.Forall₂ Production.WrittenAs ps lines) :
    (∀ g, ofText (String.ofList lines.flatten) = .ok g ↔ build ps = .ok g) ∧
      (∀ g, build ps = .ok g → g.toList = ps) ∧
      ∀ e, build ps = .error e → ∃ before p after, ps = before ++ p :: after ∧
        (∃ g, build before = .ok g) ∧ build (before ++ [p]) = .error e ∧
        ofText (String.ofList lines.flatten) =
          .error (.invalid (1 + (lines.take before.length).flatten.count '\n') e) := by
  refine ⟨fun g => ?_, fun g hg => ?_, fun e he => ?_⟩
  · rw [ofText_lines hnames h, ofRules_eq_ok_iff, flatMap_productions_rulesFrom h.length_eq]
    simp
  · obtain ⟨-, -, rfl⟩ := build_eq_ok_iff.mp hg
    rfl
  · obtain ⟨before, p, after, b, rfl, hbefore, hp⟩ :=
      foldlM_eq_error_iff.mp (build_eq_error_iff.mp he)
    refine ⟨before, p, after, rfl, ?_, ?_, ?_⟩
    · obtain ⟨-, -, -, rfl⟩ := Builder.foldlM_tryPush_eq_ok_iff.mp hbefore
      rw [build_eq, hbefore]
      exact ⟨_, rfl⟩
    · exact build_eq_error_iff.mpr (foldlM_eq_error_iff.mpr ⟨before, p, [], b, rfl, hbefore, hp⟩)
    · rw [ofText_lines hnames h, ofRules,
        Builder.foldlM_addRule_rulesFrom h.length_eq hbefore hp]
      rfl

/-- The last production has the literals of the first one, in other quotes and another order. -/
def repeated : List Production :=
  [.terminal "N" ["it's", "\n#;", "\\"], .nonterminal "S" "N" "N",
    .terminal "N" ["\\", "it's", "\n#;", "it's"]]

def repeatedLines : List (List Char) :=
  ["N := 'it\\'s' | \"\n#;\" | '\\\\' ;\n".toList, "S := N N ;\n".toList,
    "N := \"\\\\\" | \"it's\" | '\n#;' | 'it\\'s' ;\n".toList]

theorem writtenAs_repeated : List.Forall₂ Production.WrittenAs repeated repeatedLines :=
  .cons
    ⟨_, .cons (.symbol "N") (.cons .becomes (.cons (.literal "it's" (.inr rfl)) (.cons .bar
      (.cons (.literal "\n#;" (.inl rfl)) (.cons .bar (.cons (.literal "\\" (.inr rfl))
        (.cons .semicolon .nil))))))), by decide +kernel⟩
    (.cons
      ⟨_, .cons (.symbol "S") (.cons .becomes (.cons (.symbol "N") (.cons (.symbol "N")
        (.cons .semicolon .nil)))), by decide +kernel⟩
      (.cons
        ⟨_, .cons (.symbol "N") (.cons .becomes (.cons (.literal "\\" (.inl rfl)) (.cons .bar
          (.cons (.literal "it's" (.inl rfl)) (.cons .bar (.cons (.literal "\n#;" (.inr rfl))
            (.cons .bar (.cons (.literal "it's" (.inr rfl)) (.cons .semicolon .nil))))))))),
          by decide +kernel⟩
        .nil))

theorem ofText_written_repeated :
    (∀ p ∈ repeated, ∀ name ∈ p.names, IsSymbol name) ∧
      List.Forall₂ Production.WrittenAs repeated repeatedLines ∧
      (∀ g, ofText (String.ofList repeatedLines.flatten) = .ok g ↔ build repeated = .ok g) ∧
      (∀ g, build repeated = .ok g → g.toList = repeated) ∧
      ∀ e, build repeated = .error e → ∃ before p after, repeated = before ++ p :: after ∧
        (∃ g, build before = .ok g) ∧ build (before ++ [p]) = .error e ∧
        ofText (String.ofList repeatedLines.flatten) =
          .error (.invalid (1 + (repeatedLines.take before.length).flatten.count '\n') e) :=
  ⟨by decide +kernel, writtenAs_repeated, ofText_written (by decide +kernel) writtenAs_repeated⟩

/-- The literal over two lines shifts the rules after it. -/
example :
    (ofText (String.ofList repeatedLines.flatten)).map toList =
      .error (.invalid 4 (.duplicate (.terminal "N" ["\\", "it's", "\n#;", "it's"]))) := by
  decide +kernel

end Grammar

end ChomskyChart
