import ChomskyChart.Proofs.Reading.Rules

/-!
# How far the reader gets

The reader takes lexemes one after another until one is refused or none is left. At every moment the
lexemes taken are those of the rules that are complete, followed by those of the current rule, and
the line of a rule is the line of its name.
-/
namespace ChomskyChart.Rule

/-- The rules that are complete after some lexemes, and how far the current one has been read. -/
inductive Reads : List Located → List Rule → Stage → Prop
  | start : Reads [] [] .start
  | take {xs : List Located} {rules : List Rule} {stage stage' : Stage} {x : Located}
      {rule? : Option Rule} (before : Reads xs rules stage)
      (h : stage.take x = .ok (stage', rule?)) : Reads (xs ++ [x]) (rules ++ rule?.toList) stage'

/-- How the reading of lexemes ends: at a lexeme that is refused, or behind the last one. -/
inductive Ends (fault : Option GrammarError) (xs : List Located) : Reading Rule → Prop
  | refused {taken rest : List Located} {x : Located} {rules : List Rule} {stage : Stage}
      {e : GrammarError} (hxs : xs = taken ++ x :: rest) (reads : Reads taken rules stage)
      (h : stage.take x = .error e) : Ends fault xs ⟨rules, some e⟩
  | taken {rules : List Rule} {stage : Stage} (reads : Reads xs rules stage) :
      Ends fault xs ⟨rules, fault <|> stage.missing? (endLine 1 xs)⟩

variable {fault : Option GrammarError} {xs taken : List Located} {rules : List Rule} {stage stage' : Stage}
  {x : Located} {r : Rule}

theorem Reads.ends (h : Reads taken rules stage) (xs : List Located) :
    Ends fault (taken ++ xs)
      (rules.foldr .cons (readFrom fault (endLine 1 taken) stage xs)) := by
  induction xs generalizing taken rules stage with
  | nil =>
    rw [List.append_nil, readFrom, Reading.foldr_cons, Reading.items_stop, List.append_nil]
    exact .taken h
  | cons x xs ih =>
    rw [readFrom]
    rcases htake : stage.take x with e | ⟨stage', _ | rule⟩
    · rw [Reading.foldr_cons, Reading.items_stop, List.append_nil]
      exact .refused rfl h htake
    · have hnext := ih (h.take htake)
      rw [endLine_concat, List.append_assoc] at hnext
      simpa using hnext
    · have hnext := ih (h.take htake)
      rw [endLine_concat, List.append_assoc] at hnext
      simpa using hnext

theorem ends_read (lexemes : Reading Located) :
    Ends lexemes.fault lexemes.items (read lexemes) :=
  Reads.start.ends lexemes.items

/-- The line of the name of the current rule. -/
def Stage.line? : Stage → Option Nat
  | start => none
  | named line _ => some line
  | body line _ _ _ => some line

theorem Stage.line?_of_take (h : stage.take x = .ok (stage', none)) :
    stage'.line? = some (stage.line?.getD x.line) := by
  cases takes_of_take h <;> rfl

theorem Stage.line?_of_take_rule (h : stage.take x = .ok (stage', some r)) :
    stage.line? = some r.line := by
  cases takes_of_take h <;> rfl

/-- The lexemes taken are those of the complete rules and of the current one, which begins with its
name. -/
theorem Reads.exists_current (h : Reads xs rules stage) :
    ∃ before current, xs = before ++ current ∧
      before.map (·.lexeme) = rules.flatMap Rule.lexemes ∧
      current.map (·.lexeme) = stage.lexemes ∧ current.head?.map (·.line) = stage.line? := by
  induction h with
  | start => exact ⟨[], [], rfl, rfl, rfl, rfl⟩
  | @take xs rules stage stage' x rule? _ htake ih =>
    obtain ⟨before, current, rfl, hbefore, hcurrent, hline⟩ := ih
    cases rule? with
    | none =>
      refine ⟨before, current ++ [x], by simp, by simpa using hbefore, ?_, ?_⟩
      · rw [List.map_append, hcurrent, List.map_singleton, lexemes_of_take htake]
      · rw [Stage.line?_of_take htake, ← hline]
        cases current <;> rfl
    | some r =>
      obtain ⟨rfl, hr⟩ := lexemes_of_take_rule htake
      refine ⟨before ++ current ++ [x], [], by simp, ?_, rfl, rfl⟩
      simp [hbefore, hcurrent, hr]

theorem Reads.lexemes_eq (h : Reads xs rules stage) :
    xs.map (·.lexeme) = rules.flatMap Rule.lexemes ++ stage.lexemes := by
  obtain ⟨before, current, rfl, hbefore, hcurrent, -⟩ := h.exists_current
  rw [List.map_append, hbefore, hcurrent]

/-- The lexemes of the alternative that is not closed yet. -/
def Stage.pending : Stage → List Lexeme
  | body _ _ _ pending => pending
  | _ => []

theorem Reads.isContent_of_mem_pending (h : Reads xs rules stage) :
    ∀ lexeme ∈ stage.pending, lexeme.IsContent := by
  induction h with
  | start => simp [Stage.pending]
  | take _ htake ih =>
    cases Stage.takes_of_take htake with
    | content hlexeme =>
      intro lexeme hmem
      rcases List.mem_append.mp hmem with hmem | hmem
      · exact ih lexeme hmem
      · obtain rfl := List.mem_singleton.mp hmem
        exact hlexeme
    | _ => simp [Stage.pending]

/-- A complete rule has been read from lexemes that begin with its name, on its line. -/
theorem Reads.exists_rule {earlier later : List Rule}
    (h : Reads xs (earlier ++ r :: later) stage) :
    ∃ before name tail rest, xs = before ++ name :: tail ++ rest ∧
      before.map (·.lexeme) = earlier.flatMap Rule.lexemes ∧
      (name :: tail).map (·.lexeme) = r.lexemes ∧ name.line = r.line := by
  generalize hrules : earlier ++ r :: later = rules at h
  induction h generalizing later with
  | start => simp at hrules
  | @take xs rules stage stage' x rule? hreads htake ih =>
    cases rule? with
    | none =>
      obtain ⟨before, name, tail, rest, rfl, hread⟩ := ih (by simpa using hrules)
      exact ⟨before, name, tail, rest ++ [x], by simp, hread⟩
    | some last =>
      rcases List.eq_nil_or_concat later with rfl | ⟨later, last', rfl⟩
      · obtain ⟨rfl, hlast⟩ := List.append_inj' hrules rfl
        obtain rfl : r = last := by simpa using hlast
        obtain ⟨before, current, rfl, hbefore, hcurrent, hline⟩ := hreads.exists_current
        obtain ⟨-, hr⟩ := lexemes_of_take_rule htake
        rw [Stage.line?_of_take_rule htake, Option.map_eq_some_iff] at hline
        obtain ⟨name, hname, hline⟩ := hline
        obtain ⟨tail, rfl⟩ := List.head?_eq_some_iff.mp hname
        refine ⟨before, name, tail ++ [x], [], by simp, hbefore, ?_, hline⟩
        rw [hr, ← hcurrent]
        simp
      · have hfront : earlier ++ r :: later = rules := by
          have hinj : earlier ++ r :: later ++ [last'] = rules ++ [last] := by simpa using hrules
          exact (List.append_inj' hinj rfl).1
        obtain ⟨before, name, tail, rest, rfl, hread⟩ := ih hfront
        exact ⟨before, name, tail, rest ++ [x], by simp, hread⟩

end ChomskyChart.Rule
