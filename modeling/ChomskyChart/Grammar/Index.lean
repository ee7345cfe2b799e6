import Std.Data.TreeMap

/-!
# Positions filed under keys

An index answers at which positions of a list a key occurs. Every key has a bucket, and positions
are filed at the end of buckets in one pass over the list, so a bucket keeps the order of the list.
-/
namespace ChomskyChart

/-- A search tree from keys to buckets of positions. -/
abbrev Index (κ : Type) [Ord κ] := Std.TreeMap κ (Array Nat)

namespace Index

variable {κ : Type} [Ord κ]

/-- What is in the bucket of a key. -/
def positions (index : Index κ) (key : κ) : List Nat :=
  (index.getD key #[]).toList

/-- File a position at the end of the bucket of a key. -/
def push (index : Index κ) (key : κ) (position : Nat) : Index κ :=
  index.insert key ((index.getD key #[]).push position)

/-- File a position unless it is the last one in the bucket. -/
def pushOnce (index : Index κ) (key : κ) (position : Nat) : Index κ :=
  if (index.getD key #[]).back? = some position then index else index.push key position

@[simp]
theorem positions_empty [Std.TransOrd κ] (key : κ) : (∅ : Index κ).positions key = [] := by
  rw [positions, Std.TreeMap.getD_emptyc]

variable [Std.TransOrd κ] [Std.LawfulEqOrd κ] [DecidableEq κ]

theorem positions_push (index : Index κ) (key other : κ) (position : Nat) :
    (index.push key position).positions other =
      if key = other then index.positions other ++ [position] else index.positions other := by
  rw [positions, push, Std.TreeMap.getD_insert]
  by_cases h : key = other
  · subst h
    rw [if_pos Std.ReflOrd.compare_self, if_pos rfl, Array.toList_push]
    rfl
  · have hc : compare key other ≠ .eq := fun he => h (Std.LawfulEqOrd.eq_of_compare he)
    rw [if_neg hc, if_neg h]
    rfl

theorem positions_pushOnce (index : Index κ) (key other : κ) (position : Nat) :
    (index.pushOnce key position).positions other =
      if key = other ∧ (index.positions other).getLast? ≠ some position then
        index.positions other ++ [position]
      else index.positions other := by
  have hlast : (index.positions key).getLast? = (index.getD key #[]).back? :=
    Array.getLast?_toList _
  rw [pushOnce, ← hlast]
  by_cases h : key = other
  · subst h
    by_cases hfiled : (index.positions key).getLast? = some position
    · rw [if_pos hfiled, if_neg fun hnew => hnew.2 hfiled]
    · rw [if_neg hfiled, positions_push, if_pos rfl, if_pos ⟨rfl, hfiled⟩]
  · rw [if_neg (c := key = other ∧ _) fun hnew => h hnew.1]
    split
    · rfl
    · rw [positions_push, if_neg h]

end Index

end ChomskyChart
