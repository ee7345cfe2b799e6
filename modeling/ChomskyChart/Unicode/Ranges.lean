/-!
# Classes of characters

A class is a list of code point ranges, ascending and apart from each other, so
that a look-up may stop at the first range that begins above its code point.
-/
namespace ChomskyChart.Unicode

/-- No range is empty, and each begins above the end of the one before. -/
def AscendingFrom (bound : Nat) : List (Nat × Nat) → Prop
  | [] => True
  | (first, last) :: rest => bound ≤ first ∧ first ≤ last ∧ AscendingFrom (last + 1) rest

instance AscendingFrom.decidable (bound : Nat) :
    (ranges : List (Nat × Nat)) → Decidable (AscendingFrom bound ranges)
  | [] => isTrue trivial
  | (first, last) :: rest =>
    have := decidable (last + 1) rest
    inferInstanceAs (Decidable (bound ≤ first ∧ first ≤ last ∧ AscendingFrom (last + 1) rest))

theorem AscendingFrom.le_of_mem {bound : Nat} {ranges : List (Nat × Nat)}
    (h : AscendingFrom bound ranges) : ∀ r ∈ ranges, bound ≤ r.1 := by
  induction ranges generalizing bound with
  | nil => simp
  | cons r rest ih =>
    intro s hs
    rcases List.mem_cons.mp hs with rfl | hm
    · exact h.1
    · have := ih h.2.2 s hm
      have := h.1
      have := h.2.1
      omega

/-- Code point ranges, both ends included. -/
structure Ranges where
  toList : List (Nat × Nat)
  ascending : AscendingFrom 0 toList := by decide +kernel

namespace Ranges

/-- A look-up that stops at the first range above the code point. -/
def lookup : List (Nat × Nat) → Nat → Bool
  | [], _ => false
  | (first, last) :: rest, n => if n < first then false else n ≤ last || lookup rest n

def contains (ranges : Ranges) (n : Nat) : Bool := lookup ranges.toList n

theorem lookup_iff {bound : Nat} {ranges : List (Nat × Nat)} (h : AscendingFrom bound ranges)
    (n : Nat) : lookup ranges n = true ↔ ∃ r ∈ ranges, r.1 ≤ n ∧ n ≤ r.2 := by
  induction ranges generalizing bound with
  | nil => simp [lookup]
  | cons r rest ih =>
    obtain ⟨first, last⟩ := r
    by_cases hn : n < first
    · simp only [lookup, hn, ↓reduceIte, Bool.false_eq_true, List.mem_cons, false_iff]
      rintro ⟨r, rfl | hm, hle, -⟩
      · omega
      · have := h.2.2.le_of_mem r hm
        have := h.2.1
        omega
    · simp [lookup, hn, ih h.2.2, Nat.not_lt.mp hn]

/-- Ranges ascend, so the early stop loses nothing. -/
theorem contains_iff (ranges : Ranges) (n : Nat) :
    ranges.contains n = true ↔ ∃ r ∈ ranges.toList, r.1 ≤ n ∧ n ≤ r.2 :=
  lookup_iff ranges.ascending n

end Ranges

end ChomskyChart.Unicode
