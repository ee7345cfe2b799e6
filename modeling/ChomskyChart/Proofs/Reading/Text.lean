import ChomskyChart.Grammar.Text
import ChomskyChart.Proofs.Builder.Acceptance
import ChomskyChart.Proofs.Reading.Rules
import ChomskyChart.Proofs.Reading.Scanning

/-!
# Which texts are grammars

A text is read if and only if its lexemes have the form of a grammar and no two productions of
this form are the same rule. The grammar then has the productions of the form, in their order.
-/
namespace ChomskyChart

/-- The productions of rules are stored like those of one list. -/
theorem Builder.foldlM_addRule_eq_ok_iff {rules : List Rule} {b b' : Builder} :
    rules.foldlM addRule b = .ok b' ↔
      (rules.flatMap Rule.productions).foldlM tryPush b = .ok b' := by
  induction rules generalizing b with
  | nil => rfl
  | cons r rules ih =>
    simp only [List.foldlM_cons, List.flatMap_cons, List.foldlM_append, bind_eq_ok_iff, ih,
      addRule, mapError_eq_ok_iff]

namespace Grammar

theorem ofRules_eq_ok_iff {rules : Reading Rule} {g : Grammar} :
    ofRules rules = .ok g ↔
      rules.fault = none ∧ build (rules.items.flatMap Rule.productions) = .ok g := by
  rw [ofRules, build_eq, bind_eq_ok_iff, bind_eq_ok_iff]
  simp only [Builder.foldlM_addRule_eq_ok_iff]
  cases rules.fault with
  | none => simp
  | some e => simp

/-- Rules are refused for the first one that cannot be stored, and else for their fault. -/
theorem ofRules_eq_error_iff {rules : Reading Rule} {e : GrammarError} :
    ofRules rules = .error e ↔
      rules.items.foldlM Builder.addRule {} = .error e ∨
        (∃ b, rules.items.foldlM Builder.addRule {} = .ok b) ∧ rules.fault = some e := by
  rw [ofRules]
  cases hstored : rules.items.foldlM Builder.addRule {} with
  | error e' => simp [bind, Except.bind]
  | ok b =>
    rw [Builder.foldlM_addRule_eq_ok_iff, Builder.foldlM_tryPush_eq_ok_iff] at hstored
    obtain ⟨-, -, -, rfl⟩ := hstored
    cases rules.fault with
    | none => simp [bind, Except.bind, Builder.grammar]
    | some e' => simp [bind, Except.bind, throw, throwThe, MonadExceptOf.throw]

/-- Whatever a text names is spelled with symbol characters. -/
theorem isSymbol_of_ofText {text : String} {g : Grammar} (h : ofText text = .ok g)
    {p : Production} (hp : p ∈ g.toList) {name : String} (hname : name ∈ p.names) :
    IsSymbol name := by
  rw [ofText, ofRules_eq_ok_iff, build_eq_ok_iff, Rule.read] at h
  obtain ⟨hfault, -, -, rfl⟩ := h
  obtain ⟨-, hlexemes⟩ := Rule.lexemes_of_readFrom hfault
  have hform := grammarForm_iff.mpr ⟨_, hlexemes, rfl⟩
  obtain ⟨x, hx, hsymbol⟩ := List.mem_map.mp (hform.symbol_mem p hp name hname)
  exact Lexeme.isSymbol_of_mem_scanFrom hx hsymbol

/-- A text is a grammar if and only if it is made of lexemes from its beginning to its end, these
have the form of a grammar, and no two productions of this form are the same rule. The grammar
then has these productions. -/
theorem ofText_eq_ok_iff (text : String) (g : Grammar) :
    ofText text = .ok g ↔
      (Lexeme.scan text).fault = none ∧
        ∃ ps, GrammarForm ((Lexeme.scan text).items.map (·.lexeme)) ps ∧ DistinctRules ps ∧
          ofList ps = g := by
  have hnamed : ∀ name, .symbol name ∈ (Lexeme.scan text).items.map (·.lexeme) → name ≠ "" := by
    intro name hname
    obtain ⟨x, hx, hsymbol⟩ := List.mem_map.mp hname
    exact (Lexeme.isSymbol_of_mem_scanFrom hx hsymbol).1
  rw [ofText, ofRules_eq_ok_iff, build_eq_ok_iff, Rule.read]
  constructor
  · intro h
    obtain ⟨hfault, -, hdistinct, rfl⟩ := h
    obtain ⟨hlexemes, hitems⟩ := Rule.lexemes_of_readFrom hfault
    exact ⟨hlexemes, _, grammarForm_iff.mpr ⟨_, hitems, rfl⟩, hdistinct, rfl⟩
  · intro h
    obtain ⟨hlexemes, ps, hform, hdistinct, rfl⟩ := h
    obtain ⟨rules, hrules, hproductions⟩ := grammarForm_iff.mp hform
    obtain ⟨hfault, hitems⟩ := Rule.readFrom_rules hrules.symm
    rw [hlexemes, hitems, hproductions]
    exact ⟨hfault, fun p hp name hname => hnamed name (hform.symbol_mem p hp name hname),
      hdistinct, rfl⟩

/-- The literals of a rule come first in one production, and repeats of them stay. -/
example : (ofText "S := 'a' | A B | 'a' ; T := ;").map toList =
    .ok [.terminal "S" ["a", "a"], .nonterminal "S" "A" "B", .terminal "T" []] := by
  decide +kernel

end Grammar

end ChomskyChart
