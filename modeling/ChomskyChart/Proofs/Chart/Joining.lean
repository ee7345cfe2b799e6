import ChomskyChart.Chart.Fill
import Mathlib.Algebra.Ring.Nat
import Mathlib.Data.List.Perm.Basic
import Mathlib.Data.List.ProdSigma
import Mathlib.Data.Option.NAry

/-!
# Joining lists of trees

Joining is additive in both lists: exactly in the left one, and up to the order of the branches in
the right one, because every left tree goes through the right list anew. Of a tree it reads the key
and nothing else. So the keys settle which production joins the trees at which places, whatever
trees stand there: those of a chart, those of another grammar, or trees that fit no grammar at all.
-/
namespace ChomskyChart

/-- A branch over two lists of trees, told by its production and the places of its children. -/
structure Joint where
  production : Production
  left : Nat
  right : Nat
deriving DecidableEq

/-- The branch over the trees at the two places, if there are any. -/
def Joint.tree? (joint : Joint) (lefts rights : Cell) : Option Tree :=
  Option.map₂ (.branch joint.production) lefts[joint.left]? rights[joint.right]?

/-- A list gone through with its places is gone through as it is, if nothing depends on the places
beyond the elements that stand there. -/
theorem flatMap_zipIdx_eq_flatMap {α β : Type} {l : List α} {f : α × Nat → List β} {f' : α → List β}
    (h : ∀ a i, l[i]? = some a → f (a, i) = f' a) : l.zipIdx.flatMap f = l.flatMap f' := by
  have hplace : ∀ e ∈ l.zipIdx, f e = f' e.1 := fun (a, i) he =>
    h a i (List.mk_mem_zipIdx_iff_getElem?.mp he)
  calc l.zipIdx.flatMap f
    _ = l.zipIdx.flatMap (f' ·.1) := List.flatMap_congr hplace
    _ = (l.zipIdx.map Prod.fst).flatMap f' := (List.flatMap_map ..).symm
    _ = l.flatMap f' := by rw [List.zipIdx_map_fst]

namespace Grammar

variable (g : Grammar) (lefts rights more : Cell)

/-! ## Longer lists -/

theorem combine_append_left :
    g.combine (lefts ++ more) rights = g.combine lefts rights ++ g.combine more rights :=
  List.flatMap_append

theorem combine_eq_flatMap :
    g.combine lefts rights = lefts.flatMap fun left => g.combine [left] rights := by
  simp only [combine, List.flatMap_singleton]

/-- Under one left tree the branches keep the order of the right trees. -/
theorem combine_singleton_append (left : Tree) :
    g.combine [left] (rights ++ more) = g.combine [left] rights ++ g.combine [left] more := by
  simp only [combine, List.flatMap_singleton, List.flatMap_append]

/-- Under several left trees the branches over the further right trees come in between. -/
theorem combine_append_right_perm :
    (g.combine lefts (rights ++ more)).Perm (g.combine lefts rights ++ g.combine lefts more) := by
  have hbetween : g.combine lefts (rights ++ more) =
      lefts.flatMap fun left => g.combine [left] rights ++ g.combine [left] more := by
    rw [combine_eq_flatMap]
    exact List.flatMap_congr fun left _ => g.combine_singleton_append rights more left
  rw [hbetween, g.combine_eq_flatMap lefts rights, g.combine_eq_flatMap lefts more]
  exact (List.flatMap_append_perm lefts _ _).symm

/-- Two left trees and two right trees: the second branch is over the further right tree. -/
example :
    let g := ofList [.nonterminal "S" "A" "A"]
    let a := Tree.leaf (.terminal "A" ["a"]) "a"
    let b := Tree.leaf (.terminal "A" ["b"]) "b"
    g.combine [a, b] ([a] ++ [b]) ≠ g.combine [a, b] [a] ++ g.combine [a, b] [b] := by
  decide +kernel

/-! ## Pairs of trees -/

theorem combine_eq_flatMap_product :
    g.combine lefts rights = (lefts ×ˢ rights).flatMap fun (left, right) =>
      (g.matchesPair left.key right.key).map (.branch · left right) := by
  simp only [combine, SProd.sprod, List.product, List.flatMap_assoc, List.flatMap_map]

/-- There is a branch for every pair of trees and every production with their keys as components. -/
theorem length_combine :
    (g.combine lefts rights).length = ((lefts ×ˢ rights).map fun (left, right) =>
      g.toList.countP (·.components? = some ⟨left.key, right.key⟩)).sum := by
  rw [combine_eq_flatMap_product, List.length_flatMap]
  simp only [List.length_map, matchesPair_eq, List.countP_eq_length_filter]

/-! ## Places of trees -/

/-- What joins two lists of trees with these keys, whatever the trees are: by the place of the left
tree, then by that of the right tree, then in the order of the productions. -/
def joints (leftKeys rightKeys : List String) : List Joint :=
  leftKeys.zipIdx.flatMap fun (left, i) => rightKeys.zipIdx.flatMap fun (right, j) =>
    (g.toList.filter (·.components? = some ⟨left, right⟩)).map (⟨·, i, j⟩)

/-- The joints of the keys find trees at all their places, and these make the branches in order. -/
theorem map_some_combine :
    (g.combine lefts rights).map some =
      (g.joints (lefts.map Tree.key) (rights.map Tree.key)).map (·.tree? lefts rights) := by
  simp only [joints, combine, matchesPair_eq, List.zipIdx_map, List.map_flatMap, List.flatMap_map,
    List.map_map]
  -- both sides go through the same pairs of places, and what a joint reads there are the two trees
  refine .symm (flatMap_zipIdx_eq_flatMap fun left i hleft => ?_)
  refine flatMap_zipIdx_eq_flatMap fun right j hright => ?_
  refine List.map_congr_left fun p _ => ?_
  simp [Joint.tree?, hleft, hright]

/-- Joining is additive on the left, and on the right up to the order of the branches. It makes a
branch for every pair of trees, of either list, and every production with their keys as components.
And nothing but the keys matters to it: over other trees with the same keys the same productions
join the trees at the same places, in the same order. -/
theorem combine_bilinear (g : Grammar) :
    (∀ lefts more rights : Cell,
      g.combine (lefts ++ more) rights = g.combine lefts rights ++ g.combine more rights) ∧
    (∀ lefts rights more : Cell,
      (g.combine lefts (rights ++ more)).Perm (g.combine lefts rights ++ g.combine lefts more)) ∧
    (∀ lefts rights : Cell,
      (g.combine lefts rights).length = ((lefts ×ˢ rights).map fun (left, right) =>
        g.toList.countP (·.components? = some ⟨left.key, right.key⟩)).sum) ∧
    ∀ lefts lefts' rights rights' : Cell,
      lefts'.map Tree.key = lefts.map Tree.key → rights'.map Tree.key = rights.map Tree.key →
        (g.combine lefts rights).map some =
            (g.joints (lefts.map Tree.key) (rights.map Tree.key)).map (·.tree? lefts rights) ∧
          (g.combine lefts' rights').map some =
            (g.joints (lefts.map Tree.key) (rights.map Tree.key)).map (·.tree? lefts' rights') := by
  refine ⟨fun lefts more rights => g.combine_append_left lefts rights more,
    g.combine_append_right_perm, g.length_combine, fun lefts lefts' rights rights' hl hr => ?_⟩
  have hreplaced := g.map_some_combine lefts' rights'
  rw [hl, hr] at hreplaced
  exact ⟨g.map_some_combine lefts rights, hreplaced⟩

/-- A tree of no grammar: a terminal production above two leaves with a nonterminal one. -/
def misfit (key : String) : Tree :=
  let leaf := Tree.leaf (.nonterminal "" key key) key
  .branch (.terminal key []) leaf leaf

/-- The same leaf, twice on the left, gives way to two different trees. -/
theorem combine_bilinear_misfits :
    let g := ofList [.nonterminal "S" "A" "B", .terminal "A" ["a"], .nonterminal "S" "B" "B",
      .nonterminal "T" "A" "B"]
    let a := Tree.leaf (.terminal "A" ["a"]) "a"
    let b := Tree.leaf (.terminal "B" ["b"]) "b"
    let lefts := [misfit "A", b, .leaf (.terminal "A" ["c"]) ""]
    let rights := [b, misfit "B"]
    lefts.map Tree.key = [a, b, a].map Tree.key ∧ rights.map Tree.key = [b, b].map Tree.key ∧
      (g.combine [a, b, a] [b, b]).map some =
        (g.joints ["A", "B", "A"] ["B", "B"]).map (·.tree? [a, b, a] [b, b]) ∧
      (g.combine lefts rights).map some =
        (g.joints ["A", "B", "A"] ["B", "B"]).map (·.tree? lefts rights) := by
  intro g a b lefts rights
  exact ⟨rfl, rfl, (combine_bilinear g).2.2.2 [a, b, a] lefts [b, b] rights rfl rfl⟩

end Grammar

end ChomskyChart
