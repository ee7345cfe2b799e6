import ChomskyChart.Proofs.Builder.Acceptance
import ChomskyChart.Proofs.Chart.Simulation
import Mathlib.Data.Set.Function
import Mathlib.Logic.Equiv.Basic

/-!
# Renaming symbols and tokens

Symbols and tokens are names of two kinds, and nothing but equality of names of one kind is ever
asked for. So a chart may be filled after the symbols and the tokens got other names or renamed
after it was filled, as long as different names stay different. The two renamings know nothing of
each other: a symbol and a token may come to be spelled alike, or cease to be.
-/
namespace ChomskyChart

/-! ## Renamed productions and trees -/

def Body.rename (σ τ : String → String) : Body → Body
  | terminal literals => .terminal (literals.map τ)
  | nonterminal left right => .nonterminal (σ left) (σ right)

/-- A production with its symbols renamed by `σ` and its literals by `τ`. -/
def Production.rename (σ τ : String → String) (p : Production) : Production :=
  ⟨σ p.key, p.body.rename σ τ⟩

/-- A tree with all its productions renamed, and the tokens at its leaves like literals. -/
def Tree.rename (σ τ : String → String) : Tree → Tree
  | leaf p token => leaf (p.rename σ τ) (τ token)
  | branch p left right => branch (p.rename σ τ) (left.rename σ τ) (right.rename σ τ)

/-- The names of keys and components. -/
def symbols (ps : List Production) : Set String := {name | ∃ p ∈ ps, name ∈ p.names}

def literals (ps : List Production) : Set String := {token | ∃ p ∈ ps, token ∈ p.literals}

section

variable {ps : List Production} {σ τ : String → String} {p : Production}

theorem Production.literals_rename : (p.rename σ τ).literals = p.literals.map τ := by
  obtain ⟨key, body⟩ := p
  cases body <;> rfl

theorem Production.components?_rename :
    (p.rename σ τ).components? = p.components?.map fun c => ⟨σ c.left, σ c.right⟩ := by
  obtain ⟨key, body⟩ := p
  cases body <;> rfl

theorem Tree.key_rename (t : Tree) : (t.rename σ τ).key = σ t.key := by
  cases t <;> rfl

end

/-! ## Matches -/

namespace Grammar

variable {ps : List Production} {σ τ : String → String} {tokens : Set String}

/-- Among tokens and literals that keep their differences, the renamed token is listed where the
token was. -/
theorem matchesLiteral_rename (hτ : Set.InjOn τ tokens) (hlisted : literals ps ⊆ tokens)
    {token : String} (htoken : token ∈ tokens) :
    (ofList (ps.map (.rename σ τ))).matchesLiteral (τ token) =
      ((ofList ps).matchesLiteral token).map (.rename σ τ) := by
  rw [matchesLiteral_eq, matchesLiteral_eq, toList_ofList, toList_ofList, List.filter_map]
  congr 1
  refine List.filter_congr fun p hp => ?_
  have hsame : τ token ∈ (p.rename σ τ).literals ↔ token ∈ p.literals := by
    rw [Production.literals_rename, List.mem_map]
    constructor
    · intro h
      obtain ⟨l, hl, heq⟩ := h
      exact hτ (hlisted ⟨p, hp, hl⟩) htoken heq ▸ hl
    · intro h
      exact ⟨token, h, rfl⟩
  simpa using hsame

/-- Among symbols that keep their differences, the renamed components match where the components
did. -/
theorem matchesPair_rename (hσ : Set.InjOn σ (symbols ps)) {left right : String}
    (hleft : left ∈ symbols ps) (hright : right ∈ symbols ps) :
    (ofList (ps.map (.rename σ τ))).matchesPair (σ left) (σ right) =
      ((ofList ps).matchesPair left right).map (.rename σ τ) := by
  rw [matchesPair_eq, matchesPair_eq, toList_ofList, toList_ofList, List.filter_map]
  congr 1
  refine List.filter_congr fun p hp => ?_
  have hsame : (p.rename σ τ).components? = some ⟨σ left, σ right⟩ ↔
      p.components? = some ⟨left, right⟩ := by
    rw [Production.components?_rename, Option.map_eq_some_iff]
    constructor
    · intro h
      obtain ⟨⟨l, r⟩, hc, heq⟩ := h
      obtain ⟨hl, hr⟩ := Production.component_mem_names hc
      obtain ⟨hleq, hreq⟩ := Pair.mk.inj heq
      rw [hc, hσ ⟨p, hp, hl⟩ hleft hleq, hσ ⟨p, hp, hr⟩ hright hreq]
    · intro h
      exact ⟨⟨left, right⟩, h, rfl⟩
  simpa using hsame

/-! ## Cells -/

theorem translation_rename (hσ : Set.InjOn σ (symbols ps)) (hτ : Set.InjOn τ tokens)
    (hlisted : literals ps ⊆ tokens) :
    Translation (ofList ps) (ofList (ps.map (.rename σ τ)))
      (fun token token' => token ∈ tokens ∧ τ token = token') (symbols ps) (.rename σ τ) σ
      (.rename σ τ) where
  leaf p _ _ htoken := by rw [← htoken.2, Tree.rename]
  branch _ _ _ := rfl
  key t := t.key_rename
  matchesLiteral htoken := by
    obtain ⟨htoken, rfl⟩ := htoken
    exact matchesLiteral_rename hτ hlisted htoken
  matchesPair hleft hright := matchesPair_rename hσ hleft hright
  key_of_literal p hp := ⟨p, (mem_matchesLiteral.mp hp).1, p.key_mem_names⟩
  key_of_pair _ _ p hp := ⟨p, (mem_matchesPair.mp hp).1, p.key_mem_names⟩

/-- Renamed tokens have the renamed derivations under the renamed grammar, tree by tree in the same
order. The symbols of the grammar have to keep their differences, and so have its literals and the
tokens; whether a symbol and a token are spelled alike does not matter. -/
theorem cell_rename {tokens : List String} (hσ : Set.InjOn σ (symbols ps))
    (hτ : Set.InjOn τ (literals ps ∪ {token | token ∈ tokens})) (start stop : Nat) :
    ((ofList (ps.map (.rename σ τ))).chart (tokens.map τ)).cell start stop =
      (((ofList ps).chart tokens).cell start stop).map (.rename σ τ) := by
  have htokens : List.Forall₂
      (fun token token' => token ∈ literals ps ∪ {token | token ∈ tokens} ∧ τ token = token')
      tokens (tokens.map τ) := by
    rw [List.forall₂_map_right_iff, List.forall₂_same]
    intro token htoken
    exact ⟨.inr htoken, rfl⟩
  have sim := (translation_rename hσ hτ Set.subset_union_left).simulation
  exact (sim.cell htokens start stop).1.symm

def distinctly : List Production :=
  [.nonterminal "S" "S" "T", .terminal "T" ["a"], .terminal "S" ["b", "a"]]

/-- After the renaming both symbols are spelled like literals. -/
theorem cell_rename_alike :
    Set.InjOn (Equiv.swap "S" "a") (symbols distinctly) ∧
      Set.InjOn (Equiv.swap "b" "T") (literals distinctly ∪ {token | token ∈ ["b", "a", "c"]}) ∧
      distinctly.map (Production.rename (Equiv.swap "S" "a") (Equiv.swap "b" "T")) =
        [.nonterminal "a" "a" "T", .terminal "T" ["a"], .terminal "a" ["T", "a"]] ∧
      ((ofList (distinctly.map (.rename (Equiv.swap "S" "a") (Equiv.swap "b" "T")))).chart
          (["b", "a", "c"].map (Equiv.swap "b" "T"))).cell 0 2 =
        (((ofList distinctly).chart ["b", "a", "c"]).cell 0 2).map
          (.rename (Equiv.swap "S" "a") (Equiv.swap "b" "T")) :=
  have hσ := (Equiv.swap "S" "a").injective.injOn
  have hτ := (Equiv.swap "b" "T").injective.injOn
  ⟨hσ, hτ, by decide, cell_rename hσ hτ 0 2⟩

end Grammar

end ChomskyChart
