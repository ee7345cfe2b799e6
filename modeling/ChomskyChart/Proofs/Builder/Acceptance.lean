import ChomskyChart.Grammar.Builder
import ChomskyChart.Proofs.Outcome
import Mathlib.Data.List.Basic
import Mathlib.Tactic.Push

/-!
# What a builder accepts

A builder accepts a well-formed production unless a stored one is the same rule. So a list of
productions is accepted one after another if and only if all of them are well-formed and no two
are the same rule, and a chain of calls gives a grammar for exactly these lists.
-/
namespace ChomskyChart

namespace Production

/-- The symbols that a production names: its key, and its components if it has any. -/
def names (p : Production) : List String :=
  match p.body with
  | .terminal _ => [p.key]
  | .nonterminal left right => [p.key, left, right]

theorem key_mem_names (p : Production) : p.key ∈ p.names := by
  obtain ⟨key, body⟩ := p
  cases body <;> simp [names]

theorem component_mem_names {p : Production} {left right : String}
    (h : p.components? = some ⟨left, right⟩) : left ∈ p.names ∧ right ∈ p.names := by
  obtain ⟨key, body⟩ := p
  cases body with
  | terminal literals => cases h
  | nonterminal l r =>
    cases h
    simp [names]

/-- No symbol of the production is nameless. -/
def WellFormed (p : Production) : Prop := ∀ name ∈ p.names, name ≠ ""

instance : DecidablePred WellFormed := fun p =>
  inferInstanceAs (Decidable (∀ name ∈ p.names, name ≠ ""))

theorem defect?_eq_none_iff {p : Production} : p.defect? = none ↔ p.WellFormed := by
  obtain ⟨key, body⟩ := p
  by_cases hkey : key = ""
  · cases body <;> simp [defect?, WellFormed, names, hkey]
  · cases body with
    | terminal literals => simp [defect?, WellFormed, names, hkey]
    | nonterminal left right => simp [defect?, WellFormed, names, hkey]

end Production

/-- No two productions of a list are the same rule. -/
def DistinctRules (productions : List Production) : Prop :=
  productions.Pairwise fun p q => ¬ p.SameRule q

theorem distinctRules_append {ps qs : List Production} :
    DistinctRules (ps ++ qs) ↔
      DistinctRules ps ∧ DistinctRules qs ∧ ∀ p ∈ ps, ∀ q ∈ qs, ¬ p.SameRule q :=
  List.pairwise_append

/-- Being the same rule is symmetric, so the order of the productions does not matter. -/
theorem distinctRules_iff_of_perm {ps qs : List Production} (h : ps.Perm qs) :
    DistinctRules ps ↔ DistinctRules qs :=
  h.pairwise_iff fun hpq hqp => hpq hqp.symm

/-- Productions that are not the same rule are not equal. -/
theorem DistinctRules.nodup {ps : List Production} (h : DistinctRules ps) : ps.Nodup := by
  apply h.imp
  intro p q hpq heq
  subst heq
  exact hpq (.refl p)

namespace Builder

variable {b b' : Builder} {p : Production} {ps : List Production}

theorem tryPush_eq_ok_iff :
    b.tryPush p = .ok b' ↔
      p.WellFormed ∧ (∀ q ∈ b.productions, ¬ q.SameRule p) ∧
        { b with productions := b.productions ++ [p] } = b' := by
  rw [tryPush, ← Production.defect?_eq_none_iff]
  cases p.defect? with
  | some e => simp
  | none =>
    by_cases hsame : ∃ q ∈ b.productions, q.SameRule p
    · have hnot : ¬ ∀ q ∈ b.productions, ¬ q.SameRule p := by
        push Not
        exact hsame
      simp [hsame, hnot]
    · have hnew : ∀ q ∈ b.productions, ¬ q.SameRule p := by
        push Not at hsame
        exact hsame
      simp only [hsame, ↓reduceIte, Except.ok.injEq, true_and, iff_and_self]
      exact fun _ => hnew

/-- A stored production leaves the recorded error as it is. -/
theorem recorded_of_tryPush (h : b.tryPush p = .ok b') : b'.recorded = b.recorded := by
  obtain ⟨-, -, rfl⟩ := tryPush_eq_ok_iff.mp h
  rfl

/-- Productions are stored one after another if and only if all are well-formed, and no two of
them nor one of them and a stored one are the same rule. -/
theorem foldlM_tryPush_eq_ok_iff :
    ps.foldlM tryPush b = .ok b' ↔
      (∀ p ∈ ps, p.WellFormed) ∧ DistinctRules ps ∧
        (∀ q ∈ b.productions, ∀ p ∈ ps, ¬ q.SameRule p) ∧
        { b with productions := b.productions ++ ps } = b' := by
  induction ps generalizing b with
  | nil => simp [DistinctRules, pure, Except.pure]
  | cons p ps ih =>
    simp only [List.foldlM_cons, bind_eq_ok_iff, tryPush_eq_ok_iff, ih]
    constructor
    · intro h
      obtain ⟨_, ⟨hp, hnew, rfl⟩, hps, hdistinct, hnews, rfl⟩ := h
      simp only [List.mem_append, List.mem_singleton] at hnews
      refine ⟨List.forall_mem_cons.mpr ⟨hp, hps⟩, List.pairwise_cons.mpr ⟨?_, hdistinct⟩, ?_, ?_⟩
      · exact hnews p (.inr rfl)
      · intro q hq
        exact List.forall_mem_cons.mpr ⟨hnew q hq, hnews q (.inl hq)⟩
      · rw [List.append_assoc, List.singleton_append]
    · intro h
      obtain ⟨hps, hdistinct, hnews, rfl⟩ := h
      obtain ⟨hp, hps⟩ := List.forall_mem_cons.mp hps
      obtain ⟨hfirst, hdistinct⟩ := List.pairwise_cons.mp hdistinct
      refine ⟨_, ⟨hp, fun q hq => hnews q hq p List.mem_cons_self, rfl⟩, hps, hdistinct, ?_, ?_⟩
      · intro q hq r hr
        rcases List.mem_append.mp hq with hq | hq
        · exact hnews q hq r (List.mem_cons_of_mem p hr)
        · obtain rfl := List.mem_singleton.mp hq
          exact hfirst r hr
      · rw [List.append_assoc, List.singleton_append]

/-- Once an error is recorded, chained calls change nothing. -/
theorem push_of_recorded {e : GrammarError} (h : b.recorded = some e) : b.push p = b := by
  rw [push, h]

theorem push_of_ok (h : b.recorded = none) (hp : b.tryPush p = .ok b') : b.push p = b' := by
  rw [push, h]
  simp only [hp]

theorem push_of_error {e : GrammarError} (h : b.recorded = none) (hp : b.tryPush p = .error e) :
    b.push p = { b with recorded := some e } := by
  rw [push, h]
  simp only [hp]

theorem foldl_push_of_recorded {e : GrammarError} (h : b.recorded = some e) :
    ps.foldl push b = b := by
  induction ps with
  | nil => rfl
  | cons p ps ih => rw [List.foldl_cons, push_of_recorded h, ih]

/-- A chain of calls ends like trying its productions one after another. -/
theorem grammar_foldl_push (h : b.recorded = none) :
    (ps.foldl push b).grammar = ps.foldlM tryPush b >>= grammar := by
  induction ps generalizing b with
  | nil => rfl
  | cons p ps ih =>
    rw [List.foldl_cons, List.foldlM_cons]
    cases hp : b.tryPush p with
    | ok c =>
      rw [push_of_ok h hp, ih ((recorded_of_tryPush hp).trans h)]
      rfl
    | error e =>
      rw [push_of_error h hp, foldl_push_of_recorded rfl]
      rfl

end Builder

/-- A grammar is settled by its productions, and these can be compared. -/
theorem Grammar.eq_ok_iff_map_toList {ε : Type} {x : Except ε Grammar} {g : Grammar} :
    x = .ok g ↔ x.map toList = .ok g.toList := by
  rw [map_eq_ok_iff]
  constructor
  · intro h
    exact ⟨g, h, rfl⟩
  · intro h
    obtain ⟨g', rfl, hlist⟩ := h
    rw [← g'.ofList_toList, hlist, ofList_toList]

theorem Grammar.eq_error_iff_map_toList {ε : Type} {x : Except ε Grammar} {e : ε} :
    x = .error e ↔ x.map toList = .error e := by
  cases x with
  | error e' => exact ⟨fun h => congrArg _ h, fun h => congrArg _ (Except.error.inj h)⟩
  | ok g => exact ⟨nofun, nofun⟩

theorem Grammar.build_eq (ps : List Production) :
    build ps = ps.foldlM Builder.tryPush {} >>= Builder.grammar :=
  Builder.grammar_foldl_push rfl

/-- A grammar is built from exactly the lists of well-formed productions of which no two are the
same rule, and has these productions in their order. -/
theorem Grammar.build_eq_ok_iff {ps : List Production} {g : Grammar} :
    build ps = .ok g ↔ (∀ p ∈ ps, p.WellFormed) ∧ DistinctRules ps ∧ ofList ps = g := by
  simp only [build_eq, bind_eq_ok_iff, Builder.foldlM_tryPush_eq_ok_iff]
  constructor
  · intro h
    obtain ⟨_, ⟨hps, hdistinct, -, rfl⟩, hg⟩ := h
    exact ⟨hps, hdistinct, Except.ok.inj hg⟩
  · intro h
    obtain ⟨hps, hdistinct, rfl⟩ := h
    exact ⟨_, ⟨hps, hdistinct, fun _ hq => (List.not_mem_nil hq).elim, rfl⟩, rfl⟩

theorem Grammar.exists_build_eq_ok_iff {ps : List Production} :
    (∃ g, build ps = .ok g) ↔ (∀ p ∈ ps, p.WellFormed) ∧ DistinctRules ps := by
  constructor
  · intro h
    obtain ⟨g, hg⟩ := h
    obtain ⟨hps, hdistinct, -⟩ := build_eq_ok_iff.mp hg
    exact ⟨hps, hdistinct⟩
  · intro h
    exact ⟨ofList ps, build_eq_ok_iff.mpr ⟨h.1, h.2, rfl⟩⟩

/-- A grammar fails to be built with the error of the first production that is not stored. -/
theorem Grammar.build_eq_error_iff {ps : List Production} {e : GrammarError} :
    build ps = .error e ↔ ps.foldlM Builder.tryPush {} = .error e := by
  rw [build_eq]
  cases hps : ps.foldlM Builder.tryPush {} with
  | error e' => simp [bind, Except.bind]
  | ok b =>
    obtain ⟨-, -, -, rfl⟩ := Builder.foldlM_tryPush_eq_ok_iff.mp hps
    constructor
    · intro h
      cases h
    · intro h
      cases h

/-- A well-formed production is refused for nothing but a repeated rule. -/
theorem Builder.eq_duplicate_of_tryPush {b : Builder} {p : Production} {e : GrammarError}
    (hp : p.WellFormed) (h : b.tryPush p = .error e) : e = .duplicate p := by
  rw [tryPush, Production.defect?_eq_none_iff.mpr hp] at h
  by_cases hsame : ∃ q ∈ b.productions, q.SameRule p
  · simpa [hsame, eq_comm] using h
  · simp [hsame] at h

theorem Grammar.eq_duplicate_of_build {ps : List Production} {e : GrammarError}
    (hps : ∀ p ∈ ps, p.WellFormed) (h : build ps = .error e) : ∃ p ∈ ps, e = .duplicate p := by
  obtain ⟨before, p, after, b, rfl, -, hp⟩ := foldlM_eq_error_iff.mp (build_eq_error_iff.mp h)
  exact ⟨p, by simp, Builder.eq_duplicate_of_tryPush (hps p (by simp)) hp⟩

end ChomskyChart
