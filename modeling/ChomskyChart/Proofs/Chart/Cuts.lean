import Mathlib.Data.List.Basic

/-!
# Cutting a list in two

The cuts of a list are its parts on both sides of every split between the first element and
the last one, from left to right. Both parts are shorter than the list, so what holds of the
lists with less than two elements and passes from the parts to the list holds of every list.
-/
namespace ChomskyChart

variable {α : Type}

/-- The ways to cut a list into two parts that are not empty, by ascending first part. -/
def cuts (l : List α) : List (List α × List α) :=
  (List.range' 1 (l.length - 1)).map fun split => (l.take split, l.drop split)

theorem mem_cuts {l front back : List α} :
    (front, back) ∈ cuts l ↔ front ≠ [] ∧ back ≠ [] ∧ front ++ back = l := by
  simp only [cuts, List.mem_map, List.mem_range'_1, Prod.mk.injEq]
  constructor
  · intro h
    obtain ⟨split, hs, rfl, rfl⟩ := h
    refine ⟨?_, ?_, List.take_append_drop split l⟩
    · exact List.ne_nil_of_length_pos (by rw [List.length_take]; omega)
    · exact List.ne_nil_of_length_pos (by rw [List.length_drop]; omega)
  · intro h
    obtain ⟨hf, hb, rfl⟩ := h
    have hf := List.length_pos_iff.mpr hf
    have hb := List.length_pos_iff.mpr hb
    refine ⟨front.length, ?_, List.take_left, List.drop_left⟩
    rw [List.length_append]
    omega

theorem take_drop_mem_cuts {l : List α} {split : Nat} (h : split ∈ List.range' 1 (l.length - 1)) :
    (l.take split, l.drop split) ∈ cuts l :=
  List.mem_map_of_mem h

theorem flatMap_cuts {β : Type} (l : List α) (f : List α × List α → List β) :
    (cuts l).flatMap f =
      (List.range' 1 (l.length - 1)).flatMap fun split => f (l.take split, l.drop split) :=
  List.flatMap_map ..

/-- Later cuts are farther to the right. -/
theorem pairwise_cuts (l : List α) :
    (cuts l).Pairwise fun c d => c.1.length < d.1.length := by
  rw [cuts, List.pairwise_map]
  refine (List.pairwise_lt_range' (s := 1) (n := l.length - 1)).imp_of_mem fun hi hj hij => ?_
  have hi := List.mem_range'_1.mp hi
  have hj := List.mem_range'_1.mp hj
  simp only [List.length_take]
  omega

/-- Both parts are shorter than the list. -/
theorem length_lt_of_mem_cuts {l front back : List α} (h : (front, back) ∈ cuts l) :
    front.length < l.length ∧ back.length < l.length := by
  obtain ⟨hf, hb, rfl⟩ := mem_cuts.mp h
  have hf := List.length_pos_iff.mpr hf
  have hb := List.length_pos_iff.mpr hb
  rw [List.length_append]
  omega

/-- Induction from the parts of a list at its cuts to the list. -/
@[elab_as_elim]
theorem cuts_induction {motive : List α → Prop} (nil : motive [])
    (singleton : ∀ a, motive [a])
    (cut : ∀ l : List α, 1 < l.length →
      (∀ front back, (front, back) ∈ cuts l → motive front ∧ motive back) → motive l)
    (l : List α) : motive l := by
  induction hn : l.length using Nat.strongRecOn generalizing l with
  | ind n ih =>
    match l with
    | [] => exact nil
    | [a] => exact singleton a
    | a :: b :: rest =>
      refine cut _ (by simp) fun front back hc => ?_
      obtain ⟨hf, hb⟩ := length_lt_of_mem_cuts hc
      exact ⟨ih front.length (by omega) front rfl, ih back.length (by omega) back rfl⟩

end ChomskyChart
