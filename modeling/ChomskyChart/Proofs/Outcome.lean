/-!
# Outcomes

When a computation that may fail succeeds, or with what it fails: a sequence, a map, and a fold
over a list, which fails at one of the elements.
-/
namespace ChomskyChart

variable {ε ε' α β : Type} {x : Except ε α}

theorem bind_eq_ok_iff {f : α → Except ε β} {r : β} :
    x >>= f = .ok r ↔ ∃ a, x = .ok a ∧ f a = .ok r := by
  cases x with
  | error e => simp [bind, Except.bind]
  | ok a => simp [bind, Except.bind]

theorem map_eq_ok_iff {f : α → β} {r : β} : x.map f = .ok r ↔ ∃ a, x = .ok a ∧ f a = r := by
  cases x with
  | error e => simp [Except.map]
  | ok a => simp [Except.map]

theorem map_eq_error_iff {f : α → β} {e : ε} : x.map f = .error e ↔ x = .error e := by
  cases x <;> simp [Except.map]

theorem mapError_eq_error_iff {f : ε → ε'} {e' : ε'} :
    x.mapError f = .error e' ↔ ∃ e, x = .error e ∧ f e = e' := by
  cases x with
  | error e =>
    constructor
    · intro h
      exact ⟨e, rfl, Except.error.inj h⟩
    · intro h
      obtain ⟨_, he, rfl⟩ := h
      cases he
      rfl
  | ok a =>
    constructor
    · intro h
      cases h
    · intro h
      obtain ⟨_, he, -⟩ := h
      cases he

theorem mapError_eq_ok_iff {f : ε → ε'} {a : α} : x.mapError f = .ok a ↔ x = .ok a := by
  cases x with
  | error e =>
    constructor
    · intro h
      cases h
    · intro h
      cases h
  | ok a' =>
    constructor
    · intro h
      cases h
      rfl
    · intro h
      cases h
      rfl

theorem mapError_mapError {ε'' : Type} {f : ε → ε'} {f' : ε' → ε''} :
    (x.mapError f).mapError f' = x.mapError (f' ∘ f) := by
  cases x <;> rfl

/-- The error of a fold may be changed where it arises. -/
theorem mapError_foldlM {f : β → α → Except ε β} {e : ε → ε'} {l : List α} {b : β} :
    (l.foldlM f b).mapError e = l.foldlM (fun b a => (f b a).mapError e) b := by
  induction l generalizing b with
  | nil => rfl
  | cons a l ih =>
    rw [List.foldlM_cons, List.foldlM_cons]
    cases f b a with
    | error e' => rfl
    | ok c => exact ih

/-- A change of the state that every step passes on is passed on by a fold. -/
theorem foldlM_map_state {f : β → α → Except ε β} {change : β → β} {l : List α} {b : β}
    (h : ∀ a ∈ l, ∀ b, f (change b) a = (f b a).map change) :
    l.foldlM f (change b) = (l.foldlM f b).map change := by
  induction l generalizing b with
  | nil => rfl
  | cons a l ih =>
    obtain ⟨ha, hl⟩ := List.forall_mem_cons.mp h
    rw [List.foldlM_cons, List.foldlM_cons, ha]
    cases f b a with
    | error e => rfl
    | ok c => exact ih hl

/-- A fold fails at an element if those before it succeed. -/
theorem foldlM_eq_error_iff {f : β → α → Except ε β} {l : List α} {b : β} {e : ε} :
    l.foldlM f b = .error e ↔
      ∃ before a after b', l = before ++ a :: after ∧ before.foldlM f b = .ok b' ∧
        f b' a = .error e := by
  constructor
  · intro h
    induction l generalizing b with
    | nil => cases h
    | cons a l ih =>
      rw [List.foldlM_cons] at h
      cases ha : f b a with
      | error e' =>
        rw [ha] at h
        cases h
        exact ⟨[], a, l, b, rfl, rfl, ha⟩
      | ok c =>
        rw [ha] at h
        obtain ⟨before, a', after, b', rfl, hbefore, ha'⟩ := ih h
        refine ⟨a :: before, a', after, b', rfl, ?_, ha'⟩
        rw [List.foldlM_cons, ha]
        exact hbefore
  · intro h
    obtain ⟨before, a, after, b', rfl, hbefore, ha⟩ := h
    rw [List.foldlM_append, hbefore]
    simp [bind, Except.bind, List.foldlM_cons, ha]

end ChomskyChart
