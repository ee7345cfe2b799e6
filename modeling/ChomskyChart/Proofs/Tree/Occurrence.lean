import ChomskyChart.Tree.Basic
import Mathlib.Data.List.Basic

/-!
# Where a subtree stands

A way down from the root, to the left or to the right at each step, leads to one node, so equal
subtrees at different places are told apart. Counted from the left, the leaves of the subtree are
some leaves of the tree in a row. Another subtree may be put in its place.
-/
namespace ChomskyChart

/-- A step from a branch down to one of its children. -/
inductive Side
  | left
  | right
deriving DecidableEq

namespace Tree

/-- `t.Occurs way first last s`: at the end of the way stands the subtree `s`, and it covers the
leaves of `t` from number `first` up to, not including, number `last`. -/
inductive Occurs : Tree → List Side → Nat → Nat → Tree → Prop
  | root (t : Tree) : Occurs t [] 0 t.tokens.length t
  | inLeft {p : Production} {left right s : Tree} {way : List Side} {first last : Nat}
      (inside : Occurs left way first last s) :
      Occurs (branch p left right) (.left :: way) first last s
  | inRight {p : Production} {left right s : Tree} {way : List Side} {first last : Nat}
      (inside : Occurs right way first last s) :
      Occurs (branch p left right) (.right :: way) (left.tokens.length + first)
        (left.tokens.length + last) s

/-- The tree with another subtree at the end of a way. A way that leaves the tree changes nothing. -/
def replaceAt : Tree → List Side → Tree → Tree
  | _, [], new => new
  | leaf p token, _ :: _, _ => leaf p token
  | branch p left right, .left :: way, new => branch p (left.replaceAt way new) right
  | branch p left right, .right :: way, new => branch p left (right.replaceAt way new)

theorem replaceAt_nil (t new : Tree) : t.replaceAt [] new = new := by
  cases t <;> rfl

namespace Occurs

variable {t s new : Tree} {way : List Side} {first last : Nat}

theorem first_add_length (h : t.Occurs way first last s) : first + s.tokens.length = last := by
  induction h with
  | root => exact Nat.zero_add _
  | inLeft _ ih => exact ih
  | inRight _ ih => rw [Nat.add_assoc, ih]

theorem last_le_length (h : t.Occurs way first last s) : last ≤ t.tokens.length := by
  induction h with
  | root => exact Nat.le_refl _
  | inLeft _ ih =>
    rw [tokens, List.length_append]
    omega
  | inRight _ ih =>
    rw [tokens, List.length_append]
    omega

/-- The leaves that are covered have the tokens of the subtree. -/
theorem tokens_eq (h : t.Occurs way first last s) : s.tokens = t.tokens.extract first last := by
  induction h with
  | root => simp [List.extract_eq_take_drop]
  | inLeft inside ih =>
    rw [ih, tokens, List.extract_eq_take_drop, List.extract_eq_take_drop]
    have hfirst := inside.first_add_length
    have hlast := inside.last_le_length
    rw [List.drop_append_of_le_length (by omega),
      List.take_append_of_le_length (by rw [List.length_drop]; omega)]
  | @inRight _ left _ _ _ first last _ ih =>
    have hwidth : left.tokens.length + last - (left.tokens.length + first) = last - first := by
      omega
    rw [ih, tokens, List.extract_eq_take_drop, List.extract_eq_take_drop, hwidth,
      List.drop_length_add_append]

/-- A new subtree of the same width stands where the old one stood. -/
theorem replaceAt (h : t.Occurs way first last s) (hnew : first + new.tokens.length = last) :
    (t.replaceAt way new).Occurs way first last new := by
  induction h with
  | root t =>
    rw [← hnew, Nat.zero_add, replaceAt_nil]
    exact .root new
  | inLeft _ ih => exact .inLeft (ih hnew)
  | inRight _ ih => exact .inRight (ih (by omega))

/-- The root of a tree keeps its key if the new subtree has the key of the old one. -/
theorem key_replaceAt (h : t.Occurs way first last s) (hkey : new.key = s.key) :
    (t.replaceAt way new).key = t.key := by
  cases h with
  | root => rwa [replaceAt_nil]
  | inLeft => rfl
  | inRight => rfl

end Occurs

end Tree

end ChomskyChart
