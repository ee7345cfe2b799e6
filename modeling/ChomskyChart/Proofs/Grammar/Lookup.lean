import ChomskyChart.Grammar.Basic
import ChomskyChart.Proofs.Derivation.Basic

/-!
# Look-ups and scans

The bucket of a key holds the positions of the productions that belong to the key, each of them
once and in ascending order. So a look-up never leaves the list of productions, and it finds what
a scan of the whole list would find.
-/
namespace ChomskyChart

/-- A bucket of positions, and what is found through it, are those of a scan of the list for the
productions with a property. -/
structure Scans (productions : List Production) (here : Production → Bool)
    (bucket : List Nat) (found : List Production) : Prop where
  ascending : bucket.Pairwise (· < ·)
  inRange : ∀ position ∈ bucket, position < productions.length
  mem_iff : ∀ position, position ∈ bucket ↔ ∃ p, productions[position]? = some p ∧ here p
  stored : bucket.map (productions[·]?) = found.map some
  found_eq : found = productions.filter here

/-- The positions of the productions with a property lead back to these productions. -/
theorem map_getElem?_findIdxs (productions : List Production) (here : Production → Bool) :
    (productions.findIdxs here).map (productions[·]?) = (productions.filter here).map some := by
  rw [← map_productionAt_findIdxs, List.map_map]
  refine List.map_congr_left fun position hposition => ?_
  obtain ⟨p, hp, _⟩ := mem_findIdxs_iff.mp hposition
  rw [hp, Function.comp_apply, productionAt_eq hp]

theorem scans_findIdxs (productions : List Production) (here : Production → Bool) :
    Scans productions here (productions.findIdxs here) (productions.filter here) where
  ascending := List.pairwise_findIdxs
  inRange position h := by
    obtain ⟨p, hp, _⟩ := mem_findIdxs_iff.mp h
    exact (List.getElem?_eq_some_iff.mp hp).1
  mem_iff _ := mem_findIdxs_iff
  stored := map_getElem?_findIdxs productions here
  found_eq := rfl

/-- What one pass over the list files under a key, one position after the other. -/
theorem flatMap_zipIdx_eq_findIdxs (productions : List Production) (here : Production → Bool)
    (k : Nat) :
    (productions.zipIdx k).flatMap (fun (p, i) => if here p then [i] else []) =
      productions.findIdxs here k := by
  induction productions generalizing k with
  | nil => rfl
  | cons p rest ih =>
    rw [List.zipIdx_cons, List.flatMap_cons, ih, List.findIdxs_cons]
    by_cases h : here p <;> simp [h]

/-- A literal is listed by terminal productions only. -/
theorem Production.isTerminal_and_mem_literals (p : Production) (token : String) :
    (p.isTerminal && decide (token ∈ p.literals)) = decide (token ∈ p.literals) := by
  obtain ⟨key, body⟩ := p
  cases body with
  | terminal literals => exact Bool.true_and _
  | nonterminal left right => simp [isTerminal, literals]

namespace Grammar

variable (g : Grammar)

theorem positions_byLiteral (token : String) :
    g.byLiteral.positions token = g.toList.findIdxs (token ∈ ·.literals) := by
  rw [g.byLiteral_eq, positions_literalIndex, ← flatMap_zipIdx_eq_findIdxs]
  simp [toList]

theorem positions_byPair (pair : Pair) :
    g.byPair.positions pair = g.toList.findIdxs (·.components? = some pair) := by
  rw [g.byPair_eq, positions_pairIndex, ← flatMap_zipIdx_eq_findIdxs]
  simp [toList]

/-- Look-ups by literal are scans for the terminal productions that list it, and look-ups by pair
are scans for the productions with these components, whatever the list of productions is. -/
theorem lookup_scans (productions : List Production) :
    (∀ token : String,
      Scans productions (fun p => p.isTerminal && decide (token ∈ p.literals))
        ((ofList productions).byLiteral.positions token)
        ((ofList productions).matchesLiteral token)) ∧
      ∀ left right : String,
        Scans productions (fun p => p.components? = some ⟨left, right⟩)
          ((ofList productions).byPair.positions ⟨left, right⟩)
          ((ofList productions).matchesPair left right) := by
  constructor
  · intro token
    simp only [Production.isTerminal_and_mem_literals]
    rw [positions_byLiteral, matchesLiteral_eq, toList_ofList]
    exact scans_findIdxs productions _
  · intro left right
    rw [positions_byPair, matchesPair_eq, toList_ofList]
    exact scans_findIdxs productions _

/-- A literal that a production lists twice is filed once, with other literals between or not. -/
example : (ofList [.terminal "S" ["b"], .terminal "S" ["a", "a", "b", "a"]]).byLiteral.positions
    "a" = [1] := by
  decide +kernel

end Grammar

end ChomskyChart
