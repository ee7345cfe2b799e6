import ChomskyChart.Proofs.Builder.Acceptance
import ChomskyChart.Proofs.Chart.Simulation

/-!
# Pruning a grammar

A set of symbols is barren if every production for one of them lists no literals or needs one of
them in turn. They may need each other in a circle, so no single look-up shows that they derive
nothing; cell by cell, though, no tree has such a key. Hence the productions that name a barren
symbol can be left out, and no cell changes.
-/
namespace ChomskyChart

/-- A body that derives nothing as long as none of these symbols does. -/
def Body.Barren (symbols : Set String) : Body → Prop
  | terminal literals => literals = []
  | nonterminal left right => left ∈ symbols ∨ right ∈ symbols

/-- Symbols whose productions derive nothing. Symbols without a production may be among them. -/
def Barren (ps : List Production) (symbols : Set String) : Prop :=
  ∀ p ∈ ps, p.key ∈ symbols → p.body.Barren symbols

/-- The productions that name none of the symbols. -/
def pruned (symbols : Set String) [DecidablePred (· ∈ symbols)] (ps : List Production) :
    List Production :=
  ps.filter fun p => ∀ name ∈ p.names, name ∉ symbols

instance (symbols : Set String) [DecidablePred (· ∈ symbols)] :
    DecidablePred (Body.Barren symbols)
  | .terminal literals => inferInstanceAs (Decidable (literals = []))
  | .nonterminal left right => inferInstanceAs (Decidable (left ∈ symbols ∨ right ∈ symbols))

instance (ps : List Production) (symbols : Set String) [DecidablePred (· ∈ symbols)] :
    Decidable (Barren ps symbols) :=
  inferInstanceAs (Decidable (∀ p ∈ ps, p.key ∈ symbols → p.body.Barren symbols))

namespace Barren

variable {ps : List Production} {symbols : Set String} {p : Production}

/-- No production of a barren symbol lists a token. -/
theorem names_of_mem_literals {token : String} (h : Barren ps symbols) (hp : p ∈ ps)
    (htoken : token ∈ p.literals) : ∀ name ∈ p.names, name ∉ symbols := by
  have hbarren := h p hp
  obtain ⟨key, body⟩ := p
  cases body with
  | nonterminal left right => cases htoken
  | terminal literals =>
    have hlisted : literals ≠ [] := List.ne_nil_of_mem htoken
    have hkey : key ∉ symbols := fun hkey => hlisted (hbarren hkey)
    simpa [Production.names] using hkey

/-- A production of a barren symbol has a barren component. -/
theorem names_of_components {left right : String} (h : Barren ps symbols) (hp : p ∈ ps)
    (hc : p.components? = some ⟨left, right⟩) (hleft : left ∉ symbols) (hright : right ∉ symbols) :
    ∀ name ∈ p.names, name ∉ symbols := by
  have hbarren := h p hp
  obtain ⟨key, body⟩ := p
  cases body with
  | terminal literals => cases hc
  | nonterminal l r =>
    cases hc
    have hkey : key ∉ symbols := by
      intro hkey
      rcases hbarren hkey with hl | hr
      · exact hleft hl
      · exact hright hr
    simp [Production.names, hkey, hleft, hright]

end Barren

namespace Grammar

variable {ps : List Production} {symbols : Set String} [DecidablePred (· ∈ symbols)]

theorem matchesLiteral_pruned (h : Barren ps symbols) (token : String) :
    (ofList (pruned symbols ps)).matchesLiteral token = (ofList ps).matchesLiteral token := by
  rw [matchesLiteral_eq, matchesLiteral_eq, toList_ofList, toList_ofList, pruned,
    List.filter_filter]
  refine List.filter_congr fun p hp => ?_
  have hkept : token ∈ p.literals → ∀ name ∈ p.names, name ∉ symbols :=
    h.names_of_mem_literals hp
  simpa using hkept

/-- A pair without barren symbols is matched by the productions that are kept. -/
theorem matchesPair_pruned (h : Barren ps symbols) {left right : String} (hleft : left ∉ symbols)
    (hright : right ∉ symbols) :
    (ofList (pruned symbols ps)).matchesPair left right = (ofList ps).matchesPair left right := by
  rw [matchesPair_eq, matchesPair_eq, toList_ofList, toList_ofList, pruned, List.filter_filter]
  refine List.filter_congr fun p hp => ?_
  have hkept : p.components? = some ⟨left, right⟩ → ∀ name ∈ p.names, name ∉ symbols :=
    fun hc => h.names_of_components hp hc hleft hright
  simpa using hkept

/-- The trees stay as they are, and no key in them is barren. -/
theorem translation_pruned (h : Barren ps symbols) :
    Translation (ofList ps) (ofList (pruned symbols ps)) (· = ·) {key | key ∉ symbols} id id id where
  leaf p _ _ htoken := by rw [htoken, id, id]
  branch _ _ _ := rfl
  key _ := rfl
  matchesLiteral {token token'} htoken := by
    subst htoken
    rw [matchesLiteral_pruned h, List.map_id]
  matchesPair hleft hright := by
    rw [id, id, matchesPair_pruned h hleft hright, List.map_id]
  key_of_literal p hp := by
    obtain ⟨hstored, hlisted⟩ := mem_matchesLiteral.mp hp
    exact h.names_of_mem_literals hstored hlisted _ p.key_mem_names
  key_of_pair hleft hright p hp := by
    obtain ⟨hstored, hpair⟩ := mem_matchesPair.mp hp
    exact h.names_of_components hstored hpair hleft hright _ p.key_mem_names

/-- Barren symbols do not matter: without the productions that name one of them every cell has the
same trees in the same order. -/
theorem cell_pruned (h : Barren ps symbols) (tokens : List String) (start stop : Nat) :
    ((ofList (pruned symbols ps)).chart tokens).cell start stop =
      ((ofList ps).chart tokens).cell start stop := by
  have hcells :=
    ((translation_pruned h).simulation.cell (List.forall₂_refl tokens) start stop).1
  rw [List.map_id] at hcells
  exact hcells.symm

/-- The symbol `A` needs itself or the undefined `B`, and `D` lists nothing. -/
def circular : List Production :=
  [.nonterminal "S" "S" "S", .nonterminal "A" "A" "A", .nonterminal "S" "A" "S",
    .nonterminal "A" "B" "S", .terminal "D" [], .nonterminal "S" "S" "D", .terminal "S" ["a"]]

def underived : Set String := {symbol | symbol ∈ ["A", "B", "D"]}

instance : DecidablePred (· ∈ underived) := fun symbol =>
  inferInstanceAs (Decidable (symbol ∈ ["A", "B", "D"]))

theorem cell_pruned_circular :
    Barren circular underived ∧
      pruned underived circular = [.nonterminal "S" "S" "S", .terminal "S" ["a"]] ∧
      ((ofList (pruned underived circular)).chart ["a", "a", "a", "a"]).cell 1 4 =
        ((ofList circular).chart ["a", "a", "a", "a"]).cell 1 4 :=
  ⟨by decide, by decide, cell_pruned (by decide) ["a", "a", "a", "a"] 1 4⟩

end Grammar

end ChomskyChart
