import ChomskyChart.Tree.Basic
import Mathlib.Data.List.Basic
import Mathlib.Data.Set.Defs

/-!
# Derivations by position

A derivation names at every node the position of the production used there, so a rule that
is stored twice gives two derivations and one tree. Which derivations belong to a list of
tokens is said by a relation that knows neither charts nor indexes.
-/
namespace ChomskyChart

/-- A tree labelled by positions in a list of productions. -/
inductive Derivation
  | leaf (position : Nat) (token : String)
  | branch (position : Nat) (left right : Derivation)
deriving DecidableEq

namespace Production

variable {p : Production} {token left right : String}

theorem mem_literals_iff :
    token ∈ p.literals ↔ ∃ key literals, p = terminal key literals ∧ token ∈ literals := by
  constructor
  · intro h
    obtain ⟨key, body⟩ := p
    cases body with
    | terminal literals => exact ⟨key, literals, rfl, h⟩
    | nonterminal => cases h
  · intro h
    obtain ⟨key, literals, rfl, h⟩ := h
    exact h

theorem components?_eq_some_iff :
    p.components? = some ⟨left, right⟩ ↔ ∃ key, p = nonterminal key left right := by
  constructor
  · intro h
    obtain ⟨key, body⟩ := p
    cases body with
    | terminal => cases h
    | nonterminal =>
      cases h
      exact ⟨key, rfl⟩
  · intro h
    obtain ⟨key, rfl⟩ := h
    rfl

end Production

/-- The production at a position. Beyond the list it is one that derives nothing. -/
def productionAt (productions : List Production) (position : Nat) : Production :=
  productions.getD position (.terminal "" [])

theorem productionAt_eq {productions : List Production} {position : Nat} {p : Production}
    (h : productions[position]? = some p) : productionAt productions position = p := by
  rw [productionAt, List.getD_eq_getElem?_getD, h, Option.getD_some]

/-- The positions of the productions with a property select what a scan of the list keeps. -/
theorem map_productionAt_findIdxs (productions : List Production) (here : Production → Bool) :
    (productions.findIdxs here).map (productionAt productions) = productions.filter here := by
  induction productions with
  | nil => rfl
  | cons p rest ih =>
    -- behind the first production every position is one higher than in the rest
    have htail : ((rest.findIdxs here).map (· + 1)).map (productionAt (p :: rest)) =
        rest.filter here := by
      rw [List.map_map, ← ih]
      rfl
    rw [List.findIdxs_cons, List.findIdxs_start, List.filter_cons]
    split
    · rw [List.map_cons, htail]
      rfl
    · exact htail

theorem mem_findIdxs_iff {productions : List Production} {here : Production → Bool}
    {position : Nat} :
    position ∈ productions.findIdxs here ↔
      ∃ p, productions[position]? = some p ∧ here p := by
  rw [List.mem_findIdxs_iff_exists_getElem_pos]
  constructor
  · intro h
    obtain ⟨hlt, hp⟩ := h
    exact ⟨_, List.getElem?_eq_getElem hlt, hp⟩
  · intro h
    obtain ⟨p, hs, hp⟩ := h
    obtain ⟨hlt, rfl⟩ := List.getElem?_eq_some_iff.mp hs
    exact ⟨hlt, hp⟩

namespace Derivation

/-- The number of tokens that a derivation spans. -/
def width : Derivation → Nat
  | leaf _ _ => 1
  | branch _ left right => left.width + right.width

theorem width_pos (d : Derivation) : 0 < d.width := by
  induction d with
  | leaf => exact Nat.zero_lt_one
  | branch _ _ _ ihl _ => exact Nat.add_pos_left ihl _

/-- A branch spans two tokens at least. -/
theorem one_lt_width_branch (position : Nat) (left right : Derivation) :
    1 < (branch position left right).width := by
  have hl := left.width_pos
  have hr := right.width_pos
  rw [width]
  omega

/-- The tree with the productions at the positions. -/
def tree (productions : List Production) : Derivation → Tree
  | leaf position token => .leaf (productionAt productions position) token
  | branch position left right =>
    .branch (productionAt productions position) (left.tree productions) (right.tree productions)

/-- The derivations of a list of tokens from a symbol. -/
inductive Derives (productions : List Production) : Derivation → String → List String → Prop
  | leaf {position : Nat} {key : String} {literals : List String} {token : String}
      (stored : productions[position]? = some (.terminal key literals))
      (listed : token ∈ literals) :
      Derives productions (.leaf position token) key [token]
  | branch {position : Nat} {key leftKey rightKey : String} {front back : List String}
      {left right : Derivation}
      (stored : productions[position]? = some (.nonterminal key leftKey rightKey))
      (onLeft : Derives productions left leftKey front)
      (onRight : Derives productions right rightKey back) :
      Derives productions (.branch position left right) key (front ++ back)

/-- The derivations of a list of tokens, from whichever symbol. -/
def all (productions : List Production) (tokens : List String) : Set Derivation :=
  {d | ∃ key, d.Derives productions key tokens}

variable {productions : List Production} {d left right : Derivation} {key token : String}
  {tokens : List String} {position : Nat}

theorem derives_leaf_iff :
    (leaf position token).Derives productions key tokens ↔
      tokens = [token] ∧ ∃ literals,
        productions[position]? = some (.terminal key literals) ∧ token ∈ literals := by
  constructor
  · intro h
    cases h with
    | leaf stored listed => exact ⟨rfl, _, stored, listed⟩
  · intro h
    obtain ⟨rfl, literals, stored, listed⟩ := h
    exact .leaf stored listed

theorem derives_branch_iff :
    (branch position left right).Derives productions key tokens ↔
      ∃ leftKey rightKey front back,
        productions[position]? = some (.nonterminal key leftKey rightKey) ∧
        left.Derives productions leftKey front ∧ right.Derives productions rightKey back ∧
        front ++ back = tokens := by
  constructor
  · intro h
    cases h with
    | branch stored onLeft onRight => exact ⟨_, _, _, _, stored, onLeft, onRight, rfl⟩
  · intro h
    obtain ⟨leftKey, rightKey, front, back, stored, onLeft, onRight, rfl⟩ := h
    exact .branch stored onLeft onRight

namespace Derives

theorem key_tree (h : d.Derives productions key tokens) : (d.tree productions).key = key := by
  cases h with
  | leaf stored => rw [tree, productionAt_eq stored]; rfl
  | branch stored => rw [tree, productionAt_eq stored]; rfl

theorem tokens_tree (h : d.Derives productions key tokens) :
    (d.tree productions).tokens = tokens := by
  induction h with
  | leaf => rfl
  | branch _ _ _ ihl ihr => rw [tree, Tree.tokens, ihl, ihr]

theorem width_eq (h : d.Derives productions key tokens) : d.width = tokens.length := by
  induction h with
  | leaf => rfl
  | branch _ _ _ ihl ihr => rw [width, ihl, ihr, List.length_append]

/-- No symbol derives the empty list. -/
theorem ne_nil (h : d.Derives productions key tokens) : tokens ≠ [] :=
  List.ne_nil_of_length_pos (h.width_eq ▸ d.width_pos)

end Derives

end Derivation

end ChomskyChart
