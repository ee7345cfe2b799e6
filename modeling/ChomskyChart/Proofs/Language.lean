import ChomskyChart.Proofs.Derivation.Enumeration
import Mathlib.Computability.ContextFreeGrammar

/-!
# The language of a grammar

The productions are the rules of a context-free grammar over sentential forms, in which any
symbol at any place may be rewritten next. A symbol rewrites to tokens if and only if it is
the key of a tree in the chart of these tokens.
-/
namespace ChomskyChart

/-- A rule for the components of a production, or one for each of its literals. -/
def Production.rules (p : Production) : List (ContextFreeRule String String) :=
  match p.body with
  | .terminal literals => literals.map fun token => ⟨p.key, [.terminal token]⟩
  | .nonterminal left right => [⟨p.key, [.nonterminal left, .nonterminal right]⟩]

/-- The context-free grammar of the productions with a symbol to start from. -/
def contextFree (productions : List Production) (start : String) : ContextFreeGrammar String where
  NT := String
  initial := start
  rules := (productions.flatMap Production.rules).toFinset

namespace Derivation

variable {productions : List Production} {start key : String} {tokens : List String}

theorem mem_rules_contextFree {rule : ContextFreeRule String String} :
    rule ∈ (contextFree productions start).rules ↔ ∃ p ∈ productions, rule ∈ p.rules := by
  change rule ∈ (productions.flatMap Production.rules).toFinset ↔ _
  rw [List.mem_toFinset, List.mem_flatMap]

/-- A derivation read from the top rewrites its symbol to its tokens. -/
theorem Derives.rewrites {d : Derivation} (h : d.Derives productions key tokens) :
    (contextFree productions start).Derives [.nonterminal key] (tokens.map .terminal) := by
  induction h with
  | @leaf _ key literals token stored listed =>
    have hrule : ⟨key, [.terminal token]⟩ ∈ (contextFree productions start).rules :=
      mem_rules_contextFree.mpr ⟨_, List.mem_of_getElem? stored, List.mem_map.mpr ⟨_, listed, rfl⟩⟩
    exact ContextFreeGrammar.Produces.single ⟨_, hrule, ContextFreeRule.Rewrites.input_output⟩
  | @branch _ key leftKey rightKey front back _ _ stored _ _ ihl ihr =>
    have hrule : ⟨key, [.nonterminal leftKey, .nonterminal rightKey]⟩ ∈
        (contextFree productions start).rules :=
      mem_rules_contextFree.mpr ⟨_, List.mem_of_getElem? stored, List.mem_singleton.mpr rfl⟩
    have hstep : (contextFree productions start).Produces [.nonterminal key]
        [.nonterminal leftKey, .nonterminal rightKey] :=
      ⟨_, hrule, ContextFreeRule.Rewrites.input_output⟩
    rw [List.map_append]
    exact hstep.trans_derives ((ihl.append_right _).trans (ihr.append_left _))

/-- The tokens that a sentential form stands for: a token for itself, a symbol for what one of
its derivations spans. -/
inductive Yields (productions : List Production) :
    List (Symbol String String) → List String → Prop
  | nil : Yields productions [] []
  | terminal {token : String} {form : List (Symbol String String)} {tokens : List String}
      (rest : Yields productions form tokens) :
      Yields productions (.terminal token :: form) (token :: tokens)
  | nonterminal {d : Derivation} {key : String} {form : List (Symbol String String)}
      {front back : List String} (derives : d.Derives productions key front)
      (rest : Yields productions form back) :
      Yields productions (.nonterminal key :: form) (front ++ back)

namespace Yields

theorem terminals (tokens : List String) : Yields productions (tokens.map .terminal) tokens := by
  induction tokens with
  | nil => exact .nil
  | cons token rest ih => exact .terminal ih

/-- A form stands for tokens if and only if its parts stand for parts of them. -/
theorem append_iff {u v : List (Symbol String String)} :
    Yields productions (u ++ v) tokens ↔
      ∃ front back, tokens = front ++ back ∧ Yields productions u front ∧
        Yields productions v back := by
  induction u generalizing tokens with
  | nil =>
    constructor
    · intro h
      exact ⟨[], tokens, rfl, .nil, h⟩
    · intro h
      obtain ⟨_, back, rfl, hu, hv⟩ := h
      cases hu
      exact hv
  | cons symbol u ih =>
    constructor
    · intro h
      cases h with
      | @terminal token _ _ rest =>
        obtain ⟨front, back, rfl, hu, hv⟩ := ih.mp rest
        exact ⟨token :: front, back, rfl, .terminal hu, hv⟩
      | @nonterminal _ _ _ first _ derives rest =>
        obtain ⟨front, back, rfl, hu, hv⟩ := ih.mp rest
        exact ⟨first ++ front, back, (List.append_assoc ..).symm, .nonterminal derives hu, hv⟩
    · intro h
      obtain ⟨_, back, rfl, hu, hv⟩ := h
      cases hu with
      | terminal rest => exact .terminal (ih.mpr ⟨_, _, rfl, rest, hv⟩)
      | nonterminal derives rest =>
        rw [List.append_assoc]
        exact .nonterminal derives (ih.mpr ⟨_, _, rfl, rest, hv⟩)

theorem singleton_iff :
    Yields productions [.nonterminal key] tokens ↔
      ∃ d : Derivation, d.Derives productions key tokens := by
  constructor
  · intro h
    cases h with
    | @nonterminal d _ _ front _ derives rest =>
      cases rest
      exact ⟨d, (List.append_nil front).symm ▸ derives⟩
  · intro h
    obtain ⟨d, derives⟩ := h
    have hsymbol := nonterminal derives nil
    rwa [List.append_nil] at hsymbol

/-- What the output of a rule stands for can be derived from its input. -/
theorem of_rule {rule : ContextFreeRule String String}
    (hrule : rule ∈ (contextFree productions start).rules)
    (h : Yields productions rule.output tokens) :
    Yields productions [.nonterminal rule.input] tokens := by
  obtain ⟨⟨key, body⟩, hp, hrule⟩ := mem_rules_contextFree.mp hrule
  obtain ⟨position, stored⟩ := List.mem_iff_getElem?.mp hp
  rw [singleton_iff]
  cases body with
  | terminal literals =>
    obtain ⟨token, listed, rfl⟩ := List.mem_map.mp hrule
    cases h with
    | terminal rest =>
      cases rest
      exact ⟨_, .leaf stored listed⟩
  | nonterminal left right =>
    obtain rfl := List.mem_singleton.mp hrule
    obtain ⟨front, back, rfl, hl, hr⟩ := (append_iff (u := [.nonterminal left])).mp h
    obtain ⟨d, onLeft⟩ := singleton_iff.mp hl
    obtain ⟨e, onRight⟩ := singleton_iff.mp hr
    exact ⟨_, .branch stored onLeft onRight⟩

/-- One step of rewriting, at whatever place, read backwards. -/
theorem of_produces {u v : List (Symbol String String)}
    (step : (contextFree productions start).Produces u v) (h : Yields productions v tokens) :
    Yields productions u tokens := by
  obtain ⟨rule, hrule, hrewrites⟩ := step
  obtain ⟨before, after, rfl, rfl⟩ := hrewrites.exists_parts
  obtain ⟨_, back, rfl, h, hafter⟩ := append_iff.mp h
  obtain ⟨front, middle, rfl, hbefore, hmiddle⟩ := append_iff.mp h
  exact append_iff.mpr ⟨_, back, rfl,
    append_iff.mpr ⟨front, middle, rfl, hbefore, of_rule hrule hmiddle⟩, hafter⟩

/-- Any number of steps, in whatever order, read backwards. -/
theorem of_derives {u v : List (Symbol String String)}
    (steps : (contextFree productions start).Derives u v) (h : Yields productions v tokens) :
    Yields productions u tokens := by
  induction steps using Relation.ReflTransGen.head_induction_on with
  | refl => exact h
  | head step _ ih => exact of_produces step ih

end Yields

theorem exists_derives_iff :
    (∃ d : Derivation, d.Derives productions key tokens) ↔
      (contextFree productions start).Derives [.nonterminal key] (tokens.map .terminal) := by
  constructor
  · intro h
    obtain ⟨d, hd⟩ := h
    exact hd.rewrites
  · intro h
    exact Yields.singleton_iff.mp (Yields.of_derives h (Yields.terminals tokens))

/-- The keys of the parses are the symbols with a derivation of the tokens. -/
theorem exists_mem_parses_iff :
    (∃ t ∈ (Grammar.ofList productions).parses tokens, t.key = key) ↔
      ∃ d : Derivation, d.Derives productions key tokens := by
  constructor
  · intro h
    obtain ⟨t, ht⟩ := h
    obtain ⟨d, hd, -⟩ := mem_parses_iff.mp ht
    exact ⟨d, hd⟩
  · intro h
    obtain ⟨d, hd⟩ := h
    exact ⟨_, mem_parses_iff.mpr ⟨d, hd, rfl⟩⟩

/-- The parses of some tokens have a symbol as a key if and only if the symbol can be rewritten
to the tokens. No symbol is rewritten to nothing, and tokens are never rewritten, not even if
they are spelled like symbols. -/
theorem parses_iff_rewrites (productions : List Production) (tokens : List String)
    (key : String) :
    ((∃ t ∈ (Grammar.ofList productions).parses tokens, t.key = key) ↔
        (contextFree productions key).Derives [.nonterminal key] (tokens.map .terminal)) ∧
      ¬ (contextFree productions key).Derives [.nonterminal key] [] ∧
      ∀ form, ¬ (contextFree productions key).Produces (tokens.map .terminal) form := by
  refine ⟨exists_mem_parses_iff.trans exists_derives_iff, ?_, ?_⟩
  · intro h
    obtain ⟨d, hd⟩ := exists_derives_iff.mpr (show (contextFree productions key).Derives
      [.nonterminal key] (([] : List String).map .terminal) from h)
    exact hd.ne_nil rfl
  · intro form step
    obtain ⟨rule, -, hmem⟩ := step.exists_nonterminal_input_mem
    obtain ⟨token, -, htoken⟩ := List.mem_map.mp hmem
    cases htoken

end Derivation

end ChomskyChart
