import ChomskyChart.Proofs.Builder.Acceptance
import Mathlib.Data.List.Induction

/-!
# Runs of a builder

A step offers its production to the builder, unless it is a chained call after an error was
recorded. An offer is accepted or not by the offers before it alone: being the same rule is
transitive, so a refused production refuses nothing that a stored one would not refuse. What a
run stores and what it records is told from its offers and its failed calls.
-/
namespace ChomskyChart

/-- A well-formed production that is not the same rule as a well-formed one offered before. -/
def Accepted (before : List Production) (p : Production) : Prop :=
  p.WellFormed ∧ ∀ q ∈ before, q.WellFormed → ¬ q.SameRule p

instance (before : List Production) : DecidablePred (Accepted before) := fun p =>
  inferInstanceAs (Decidable (p.WellFormed ∧ ∀ q ∈ before, q.WellFormed → ¬ q.SameRule p))

/-- The offers that are accepted where they stand, in their order. -/
def accepted (offers : List Production) : List Production :=
  (offers.zipIdx.filter fun offer => Accepted (offers.take offer.2) offer.1).map Prod.fst

theorem accepted_concat (offers : List Production) (p : Production) :
    accepted (offers ++ [p]) = accepted offers ++ if Accepted offers p then [p] else [] := by
  -- an offer does not see those after it
  have hearlier : offers.zipIdx.filter (fun offer =>
        Accepted ((offers ++ [p]).take offer.2) offer.1) =
      offers.zipIdx.filter fun offer => Accepted (offers.take offer.2) offer.1 := by
    refine List.filter_congr fun offer hoffer => ?_
    have hlt := (List.mem_zipIdx hoffer).2.1
    rw [List.take_append_of_le_length (by omega)]
  rw [accepted, accepted, List.zipIdx_append, List.filter_append, List.map_append, hearlier]
  congr 1
  by_cases hp : Accepted offers p
  · simp [hp]
  · simp [hp]

theorem mem_accepted {offers : List Production} {p : Production} (h : p ∈ accepted offers) :
    p ∈ offers ∧ p.WellFormed := by
  obtain ⟨e, he, rfl⟩ := List.mem_map.mp h
  obtain ⟨he, hacc⟩ := List.mem_filter.mp he
  exact ⟨List.fst_mem_of_mem_zipIdx he, (of_decide_eq_true hacc).1⟩

/-- A production repeats an accepted offer if and only if it repeats a well-formed one. -/
theorem exists_accepted_sameRule_iff {offers : List Production} {p : Production} :
    (∃ q ∈ accepted offers, q.SameRule p) ↔
      ∃ q ∈ offers, q.WellFormed ∧ q.SameRule p := by
  constructor
  · intro h
    obtain ⟨q, hq, hsame⟩ := h
    obtain ⟨hq, hwf⟩ := mem_accepted hq
    exact ⟨q, hq, hwf, hsame⟩
  · intro h
    induction offers using List.reverseRecOn generalizing p with
    | nil => simp at h
    | append_singleton offers r ih =>
      have hkeep : ∀ {s : Production}, (∃ q ∈ accepted offers, q.SameRule s) →
          ∃ q ∈ accepted (offers ++ [r]), q.SameRule s := by
        intro s hs
        obtain ⟨q, hq, hsame⟩ := hs
        rw [accepted_concat]
        exact ⟨q, List.mem_append_left _ hq, hsame⟩
      obtain ⟨q, hq, hwf, hsame⟩ := h
      rcases List.mem_append.mp hq with hq | hq
      · exact hkeep (ih ⟨q, hq, hwf, hsame⟩)
      · obtain rfl := List.mem_singleton.mp hq
        by_cases hacc : Accepted offers q
        · rw [accepted_concat, if_pos hacc]
          exact ⟨q, by simp, hsame⟩
        -- a refused last offer repeats an earlier one, which then stands in for it
        · have hrepeat : ∃ r ∈ offers, r.WellFormed ∧ r.SameRule q := by
            simpa [Accepted, hwf] using hacc
          obtain ⟨r, hr, hrq⟩ := ih hrepeat
          exact hkeep ⟨r, hr, hrq.trans hsame⟩

theorem accepted_iff {offers : List Production} {p : Production} :
    Accepted offers p ↔ p.WellFormed ∧ ∀ q ∈ accepted offers, ¬ q.SameRule p := by
  have h : (∃ q ∈ accepted offers, q.SameRule p) ↔ ∃ q ∈ offers, q.WellFormed ∧ q.SameRule p :=
    exists_accepted_sameRule_iff
  rw [← not_iff_not] at h
  push Not at h
  rw [Accepted, h]

theorem distinctRules_accepted (offers : List Production) : DistinctRules (accepted offers) := by
  induction offers using List.reverseRecOn with
  | nil => exact .nil
  | append_singleton offers p ih =>
    rw [accepted_concat]
    split
    · rename_i hacc
      refine distinctRules_append.mpr ⟨ih, List.pairwise_singleton .., ?_⟩
      intro q hq r hr
      obtain rfl := List.mem_singleton.mp hr
      exact (accepted_iff.mp hacc).2 q hq
    · rwa [List.append_nil]

namespace Builder

/-- The steps of a run, each with the builder on which it is taken. -/
def historyFrom (b : Builder) : List Step → List (Builder × Step)
  | [] => []
  | s :: rest => (b, s) :: historyFrom (b.apply s) rest

/-- What a step offers: an attempt its production at any time, a chained call only while no
error is recorded. -/
def offer? (b : Builder) : Step → Option Production
  | .tryPush p => some p
  | .push p => if b.recorded = none then some p else none

/-- Why a chained call fails, if it does. After an error was recorded it is not even tried. -/
def failure? (b : Builder) : Step → Option GrammarError
  | .tryPush _ => none
  | .push p =>
    match b.recorded, b.tryPush p with
    | none, .error e => some e
    | _, _ => none

def offers (steps : List Step) : List Production :=
  (historyFrom {} steps).filterMap fun entry => entry.1.offer? entry.2

def failures (steps : List Step) : List GrammarError :=
  (historyFrom {} steps).filterMap fun entry => entry.1.failure? entry.2

variable (steps : List Step) (s : Step)

theorem historyFrom_concat (b : Builder) :
    historyFrom b (steps ++ [s]) = historyFrom b steps ++ [(steps.foldl apply b, s)] := by
  induction steps generalizing b with
  | nil => rfl
  | cons t steps ih => rw [List.cons_append, historyFrom, ih]; rfl

theorem run_concat : run (steps ++ [s]) = (run steps).apply s :=
  List.foldl_concat ..

theorem offers_concat : offers (steps ++ [s]) = offers steps ++ ((run steps).offer? s).toList := by
  rw [offers, historyFrom_concat, List.filterMap_append]
  cases h : (run steps).offer? s <;> simp_all [offers, run]

theorem failures_concat :
    failures (steps ++ [s]) = failures steps ++ ((run steps).failure? s).toList := by
  rw [failures, historyFrom_concat, List.filterMap_append]
  cases h : (run steps).failure? s <;> simp_all [failures, run]

/-! ## One step -/

variable {b b' : Builder} {p : Production} {e : GrammarError}

theorem apply_tryPush_of_ok (h : b.tryPush p = .ok b') : b.apply (.tryPush p) = b' := by
  rw [apply, h]
  rfl

/-- An attempt that fails leaves the builder as it was. -/
theorem apply_tryPush_of_error (h : b.tryPush p = .error e) : b.apply (.tryPush p) = b := by
  rw [apply, h]
  rfl

theorem failure?_push_of_error (h : b.recorded = none) (hp : b.tryPush p = .error e) :
    b.failure? (.push p) = some e := by
  rw [failure?, h, hp]

theorem failure?_push_of_ok (hp : b.tryPush p = .ok b') : b.failure? (.push p) = none := by
  rw [failure?, hp]
  cases b.recorded <;> rfl

/-- A builder that stores the accepted offers accepts what they leave to accept. -/
theorem tryPush_of_accepted {before : List Production} (h : b.productions = accepted before)
    (hp : Accepted before p) :
    b.tryPush p = .ok { b with productions := b.productions ++ [p] } := by
  obtain ⟨hwf, hnew⟩ := accepted_iff.mp hp
  exact tryPush_eq_ok_iff.mpr ⟨hwf, h ▸ hnew, rfl⟩

theorem tryPush_of_not_accepted {before : List Production} (h : b.productions = accepted before)
    (hp : ¬ Accepted before p) : ∃ e, b.tryPush p = .error e := by
  cases htry : b.tryPush p with
  | error e => exact ⟨e, rfl⟩
  | ok b' =>
    obtain ⟨hwf, hnew, -⟩ := tryPush_eq_ok_iff.mp htry
    exact (hp (accepted_iff.mpr ⟨hwf, h ▸ hnew⟩)).elim

/-- A step stores what it offers if that is accepted after the offers before it. -/
theorem productions_apply {before : List Production} (h : b.productions = accepted before) :
    (b.apply s).productions = accepted (before ++ (b.offer? s).toList) := by
  cases s with
  | tryPush p =>
    rw [offer?, Option.toList_some, accepted_concat]
    by_cases hp : Accepted before p
    · rw [apply_tryPush_of_ok (tryPush_of_accepted h hp), if_pos hp, h]
    · obtain ⟨e, he⟩ := tryPush_of_not_accepted h hp
      rw [apply_tryPush_of_error he, if_neg hp, List.append_nil, h]
  | push p =>
    rw [apply, offer?]
    cases hrec : b.recorded with
    | some e => rw [push_of_recorded hrec, if_neg (by simp), Option.toList_none, List.append_nil, h]
    | none =>
      rw [if_pos rfl, Option.toList_some, accepted_concat]
      by_cases hp : Accepted before p
      · rw [push_of_ok hrec (tryPush_of_accepted h hp), if_pos hp, h]
      · obtain ⟨e, he⟩ := tryPush_of_not_accepted h hp
        rw [push_of_error hrec he, if_neg hp, List.append_nil, h]

/-- A step records the failure of a chained call, unless an error was recorded before. -/
theorem recorded_apply : (b.apply s).recorded = b.recorded.or (b.failure? s) := by
  cases s with
  | tryPush p =>
    rw [failure?, Option.or_none]
    cases htry : b.tryPush p with
    | ok b' => rw [apply_tryPush_of_ok htry, recorded_of_tryPush htry]
    | error e => rw [apply_tryPush_of_error htry]
  | push p =>
    rw [apply]
    cases hrec : b.recorded with
    | some e => rw [push_of_recorded hrec, hrec, Option.some_or]
    | none =>
      rw [Option.none_or]
      cases htry : b.tryPush p with
      | ok b' =>
        rw [push_of_ok hrec htry, recorded_of_tryPush htry, hrec, failure?_push_of_ok htry]
      | error e => rw [push_of_error hrec htry, failure?_push_of_error hrec htry]

/-! ## Whole runs -/

theorem productions_run : (run steps).productions = accepted (offers steps) := by
  induction steps using List.reverseRecOn with
  | nil => rfl
  | append_singleton steps s ih => rw [run_concat, offers_concat, productions_apply s ih]

theorem recorded_run : (run steps).recorded = (failures steps).head? := by
  induction steps using List.reverseRecOn with
  | nil => rfl
  | append_singleton steps s ih =>
    rw [run_concat, recorded_apply, failures_concat, List.head?_append, ih, Option.head?_toList]

/-- What was recorded stays recorded. -/
theorem recorded_run_append {e : GrammarError} (more : List Step)
    (h : (run steps).recorded = some e) : (run (steps ++ more)).recorded = some e := by
  induction more using List.reverseRecOn with
  | nil => rwa [List.append_nil]
  | append_singleton more s ih =>
    rw [← List.append_assoc, run_concat, recorded_apply, ih, Option.some_or]

theorem grammar_run :
    (run steps).grammar =
      match (failures steps).head? with
      | some e => .error e
      | none => .ok (.ofList (accepted (offers steps))) := by
  rw [← recorded_run, ← productions_run]
  rfl

/-- What a run of steps leaves in the builder, and how the builder goes on from there. -/
structure Chronicle (steps : List Step) : Prop where
  /-- The stored productions are the offers accepted where they stand, in their order. -/
  productions_eq : (run steps).productions = accepted (offers steps)
  distinct : DistinctRules (run steps).productions
  /-- The recorded error is that of the first chained call that failed, and it stays. -/
  recorded_eq : (run steps).recorded = (failures steps).head?
  recorded_stays : ∀ e more, (run steps).recorded = some e → (run (steps ++ more)).recorded = some e
  /-- Chained calls after a failed one change nothing. -/
  push_ignored : ∀ p, failures steps ≠ [] → run (steps ++ [.push p]) = run steps
  /-- An attempt stores an accepted production, whatever is recorded, and nothing else. -/
  tryPush_stores : ∀ p, Accepted (offers steps) p →
    (run steps).tryPush p = .ok (run (steps ++ [.tryPush p])) ∧
      run (steps ++ [.tryPush p]) =
        { run steps with productions := (run steps).productions ++ [p] }
  tryPush_fails : ∀ p, ¬ Accepted (offers steps) p →
    (∃ e, (run steps).tryPush p = .error e) ∧ run (steps ++ [.tryPush p]) = run steps
  /-- The grammar has the accepted offers, unless a chained call has failed. -/
  grammar_eq : (run steps).grammar =
    match (failures steps).head? with
    | some e => .error e
    | none => .ok (.ofList (accepted (offers steps)))

theorem chronicle (steps : List Step) : Chronicle steps where
  productions_eq := productions_run steps
  distinct := by
    rw [productions_run]
    exact distinctRules_accepted (offers steps)
  recorded_eq := recorded_run steps
  recorded_stays e more := recorded_run_append steps more
  push_ignored p hfailed := by
    obtain ⟨e, rest, hfailures⟩ := List.exists_cons_of_ne_nil hfailed
    have hrecorded : (run steps).recorded = some e := by
      rw [recorded_run, hfailures, List.head?_cons]
    rw [run_concat]
    exact push_of_recorded hrecorded
  tryPush_stores p hp := by
    have htry := tryPush_of_accepted (productions_run steps) hp
    rw [run_concat, apply_tryPush_of_ok htry]
    exact ⟨htry, rfl⟩
  tryPush_fails p hp := by
    obtain ⟨e, htry⟩ := tryPush_of_not_accepted (productions_run steps) hp
    rw [run_concat]
    exact ⟨⟨e, htry⟩, apply_tryPush_of_error htry⟩
  grammar_eq := grammar_run steps

/-- After a failed call another one is not even offered, but an attempt is stored. -/
example :
    let p := Production.terminal "N" ["a", "b"]
    let q := Production.terminal "N" ["b", "a", "a"]
    let r := Production.nonterminal "N" "N" "N"
    let b := run [.tryPush p, .tryPush q, .push q, .push r, .tryPush r]
    b.productions = [p, r] ∧ b.recorded = some (.duplicate q) := by
  decide +kernel

end Builder

end ChomskyChart
