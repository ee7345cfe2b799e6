import ChomskyChart.Grammar.Error

/-!
# Partial readings

Reading a text piece by piece gives the pieces before the first fault, and that fault.
What follows a fault is never looked at.
-/
namespace ChomskyChart

structure Reading (α : Type) where
  items : List α
  fault : Option GrammarError
deriving DecidableEq

namespace Reading

variable {α : Type}

/-- A reading that ends before any piece. -/
def stop (fault : Option GrammarError) : Reading α := ⟨[], fault⟩

def cons (item : α) (r : Reading α) : Reading α := ⟨item :: r.items, r.fault⟩

@[simp]
theorem items_stop (fault : Option GrammarError) : (stop fault : Reading α).items = [] := rfl

@[simp]
theorem fault_stop (fault : Option GrammarError) : (stop fault : Reading α).fault = fault := rfl

@[simp]
theorem items_cons (item : α) (r : Reading α) : (r.cons item).items = item :: r.items := rfl

@[simp]
theorem fault_cons (item : α) (r : Reading α) : (r.cons item).fault = r.fault := rfl

/-- Pieces in front of a reading. -/
theorem foldr_cons (items : List α) (r : Reading α) :
    items.foldr cons r = ⟨items ++ r.items, r.fault⟩ := by
  induction items with
  | nil => rfl
  | cons item items ih => rw [List.foldr_cons, ih]; rfl

end Reading

end ChomskyChart
