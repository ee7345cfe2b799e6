import ChomskyChart.Proofs.Outcome
import ChomskyChart.Proofs.Reading.Format

/-!
# Reading rules

What a stage has taken of the current rule is a list of lexemes, and taking one more adds it to
the list or ends the rule with it. So a reading without a fault has read the lexemes of the
rules it gives. The other way round, the lexemes of a rule lead from the start of a rule to the
start of the next one.
-/
namespace ChomskyChart

/-- What an alternative may be made of. -/
def Lexeme.IsContent : Lexeme → Prop
  | symbol _ | literal _ => True
  | _ => False

namespace Rule

/-- The lexemes taken of the current rule. -/
def Stage.lexemes : Stage → List Lexeme
  | start => []
  | named _ key => [.symbol key]
  | body _ key closed pending =>
    [.symbol key, .becomes] ++ closed.flatMap (·.lexemes ++ [.bar]) ++ pending

variable {stage stage' : Stage} {x : Located} {r : Rule} {fault : Option GrammarError}
  {here line : Nat} {key : String} {closed : List Alternative} {pending : List Lexeme}

theorem closeAlternative_eq_ok_iff {a : Alternative} :
    closeAlternative here key pending = .ok a ↔ pending = a.lexemes := by
  rw [← Alternative.ofLexemes?_eq_some_iff, closeAlternative]
  cases Alternative.ofLexemes? pending with
  | none => simp
  | some a => simp

/-- What stages take, and where it leads: everything that can happen without an error. -/
inductive Stage.Takes : Stage → Located → Stage → Option Rule → Prop
  | name {line : Nat} {key : String} :
      Takes .start ⟨line, .symbol key⟩ (.named line key) none
  | becomes {line here : Nat} {key : String} :
      Takes (.named line key) ⟨here, .becomes⟩ (.body line key [] []) none
  | content {line here : Nat} {key : String} {closed : List Alternative} {pending : List Lexeme}
      {lexeme : Lexeme} (h : lexeme.IsContent) :
      Takes (.body line key closed pending) ⟨here, lexeme⟩
        (.body line key closed (pending ++ [lexeme])) none
  | bar {line here : Nat} {key : String} {closed : List Alternative} (a : Alternative) :
      Takes (.body line key closed a.lexemes) ⟨here, .bar⟩ (.body line key (closed ++ [a]) []) none
  | empty {line here : Nat} {key : String} :
      Takes (.body line key [] []) ⟨here, .semicolon⟩ .start (some ⟨line, key, []⟩)
  | last {line here : Nat} {key : String} {closed : List Alternative} (a : Alternative) :
      Takes (.body line key closed a.lexemes) ⟨here, .semicolon⟩ .start
        (some ⟨line, key, closed ++ [a]⟩)

theorem Stage.takes_of_take {rule? : Option Rule} (h : stage.take x = .ok (stage', rule?)) :
    stage.Takes x stage' rule? := by
  obtain ⟨here, lexeme⟩ := x
  cases stage with
  | start =>
    cases lexeme with
    | symbol key => cases h; exact .name
    | _ => cases h
  | named line key =>
    cases lexeme with
    | becomes => cases h; exact .becomes
    | _ => cases h
  | body line key closed pending =>
    cases lexeme with
    | becomes => cases h
    | symbol name => cases h; exact .content trivial
    | literal content => cases h; exact .content trivial
    | bar =>
      obtain ⟨a, ha, hstage⟩ := map_eq_ok_iff.mp h
      cases hstage
      obtain rfl := closeAlternative_eq_ok_iff.mp ha
      exact .bar a
    | semicolon =>
      rw [Stage.take] at h
      split at h
      · rename_i hempty
        obtain ⟨rfl, rfl⟩ := hempty
        cases h
        exact .empty
      · obtain ⟨a, ha, hstage⟩ := map_eq_ok_iff.mp h
        cases hstage
        obtain rfl := closeAlternative_eq_ok_iff.mp ha
        exact .last a

/-- What stages refuse, and with which error. -/
inductive Stage.Refuses : Stage → Located → GrammarError → Prop
  | ruleName {here : Nat} {lexeme : Lexeme} (h : ∀ name, lexeme ≠ .symbol name) :
      Refuses .start ⟨here, lexeme⟩ (.unexpectedLexeme here lexeme .ruleName)
  | becomes {line here : Nat} {key : String} {lexeme : Lexeme} (h : lexeme ≠ .becomes) :
      Refuses (.named line key) ⟨here, lexeme⟩ (.unexpectedLexeme here lexeme .becomes)
  | alternative {line here : Nat} {key : String} {closed : List Alternative}
      {pending : List Lexeme} :
      Refuses (.body line key closed pending) ⟨here, .becomes⟩
        (.unexpectedLexeme here .becomes .alternative)
  | notChomskyNormal {line here : Nat} {key : String} {closed : List Alternative}
      {pending : List Lexeme} {lexeme : Lexeme} (hlexeme : lexeme = .bar ∨ lexeme = .semicolon)
      (hpending : ∀ a : Alternative, pending ≠ a.lexemes) :
      Refuses (.body line key closed pending) ⟨here, lexeme⟩ (.notChomskyNormal here key pending)

theorem closeAlternative_eq_error_iff {e : GrammarError} :
    closeAlternative here key pending = .error e ↔
      (∀ a : Alternative, pending ≠ a.lexemes) ∧ e = .notChomskyNormal here key pending := by
  simp only [ne_eq, ← Alternative.ofLexemes?_eq_some_iff]
  rw [closeAlternative]
  cases Alternative.ofLexemes? pending with
  | none => simp [eq_comm]
  | some a => simp

theorem Stage.refuses_of_take {e : GrammarError} (h : stage.take x = .error e) :
    stage.Refuses x e := by
  obtain ⟨here, lexeme⟩ := x
  cases stage with
  | start =>
    cases lexeme with
    | symbol key => cases h
    | _ => cases h; exact .ruleName nofun
  | named line key =>
    cases lexeme with
    | becomes => cases h
    | _ => cases h; exact .becomes nofun
  | body line key closed pending =>
    cases lexeme with
    | becomes => cases h; exact .alternative
    | symbol name => cases h
    | literal content => cases h
    | bar =>
      obtain ⟨hpending, rfl⟩ := closeAlternative_eq_error_iff.mp (map_eq_error_iff.mp h)
      exact .notChomskyNormal (.inl rfl) hpending
    | semicolon =>
      rw [Stage.take] at h
      split at h
      · cases h
      · obtain ⟨hpending, rfl⟩ := closeAlternative_eq_error_iff.mp (map_eq_error_iff.mp h)
        exact .notChomskyNormal (.inr rfl) hpending

/-- A lexeme that does not end the rule is added to what was taken. -/
theorem lexemes_of_take (h : stage.take x = .ok (stage', none)) :
    stage'.lexemes = stage.lexemes ++ [x.lexeme] := by
  cases Stage.takes_of_take h <;> simp [Stage.lexemes]

/-- The semicolon of a rule ends what was taken, and the reader starts over. -/
theorem lexemes_of_take_rule (h : stage.take x = .ok (stage', some r)) :
    stage' = .start ∧ r.lexemes = stage.lexemes ++ [x.lexeme] := by
  cases Stage.takes_of_take h with
  | empty => exact ⟨rfl, rfl⟩
  | last a => simp [Rule.lexemes, bodyLexemes_concat, Stage.lexemes]

theorem missing?_eq_none_iff : stage.missing? here = none ↔ stage = .start := by
  cases stage <;> simp [Stage.missing?]

/-- A reading without a fault has used up the lexemes of its rules, and there is no fault
behind them. -/
theorem lexemes_of_readFrom {xs : List Located} (h : (readFrom fault here stage xs).fault = none) :
    fault = none ∧
      (readFrom fault here stage xs).items.flatMap Rule.lexemes =
        stage.lexemes ++ xs.map (·.lexeme) := by
  induction xs generalizing here stage with
  | nil =>
    have hnone : (fault <|> stage.missing? here) = none := h
    cases fault with
    | some e => cases hnone
    | none =>
      obtain rfl := missing?_eq_none_iff.mp hnone
      exact ⟨rfl, rfl⟩
  | cons x xs ih =>
    rw [readFrom] at h ⊢
    split at h
    · cases h
    · rename_i stage' htake
      obtain ⟨hfault, hitems⟩ := ih h
      rw [lexemes_of_take htake] at hitems
      rw [hitems]
      simpa using hfault
    · rename_i stage' r htake
      obtain ⟨rfl, hr⟩ := lexemes_of_take_rule htake
      obtain ⟨hfault, hitems⟩ := ih h
      rw [Reading.items_cons, List.flatMap_cons, hitems, hr]
      simpa [Stage.lexemes] using hfault

/-! ## Reading the lexemes of a rule -/

/-- The line on which a row of lexemes ends that begins after line `here`. -/
def endLine (here : Nat) (xs : List Located) : Nat :=
  xs.foldl (fun _ x => x.lastLine) here

theorem readFrom_cons_of_take {xs : List Located} (h : stage.take x = .ok (stage', none)) :
    readFrom fault here stage (x :: xs) = readFrom fault x.lastLine stage' xs := by
  rw [readFrom, h]

theorem readFrom_cons_of_take_rule {xs : List Located} (h : stage.take x = .ok (stage', some r)) :
    readFrom fault here stage (x :: xs) = (readFrom fault x.lastLine stage' xs).cons r := by
  rw [readFrom, h]

theorem exists_cons_of_map {xs : List Located} {lexeme : Lexeme} {lexemes : List Lexeme}
    (h : xs.map (·.lexeme) = lexeme :: lexemes) :
    ∃ line rest, xs = ⟨line, lexeme⟩ :: rest ∧ rest.map (·.lexeme) = lexemes := by
  obtain ⟨⟨line, _⟩, rest, rfl, rfl, hrest⟩ := List.map_eq_cons_iff.mp h
  exact ⟨line, rest, rfl, hrest⟩

theorem exists_singleton_of_map {xs : List Located} {lexeme : Lexeme}
    (h : xs.map (·.lexeme) = [lexeme]) : ∃ line, xs = [⟨line, lexeme⟩] := by
  obtain ⟨line, rest, rfl, hrest⟩ := exists_cons_of_map h
  obtain rfl := List.map_eq_nil_iff.mp hrest
  exact ⟨line, rfl⟩

/-- The lexemes of an alternative are collected until it is closed. -/
theorem readFrom_alternative {a : Alternative} {xs rest : List Located}
    (h : xs.map (·.lexeme) = a.lexemes) :
    readFrom fault here (.body line key closed []) (xs ++ rest) =
      readFrom fault (endLine here xs) (.body line key closed a.lexemes) rest := by
  cases a with
  | literal content =>
    obtain ⟨i, rfl⟩ := exists_singleton_of_map h
    exact readFrom_cons_of_take rfl
  | pair components =>
    obtain ⟨i, ys, rfl, hys⟩ := exists_cons_of_map h
    obtain ⟨j, rfl⟩ := exists_singleton_of_map hys
    exact (readFrom_cons_of_take rfl).trans (readFrom_cons_of_take rfl)

theorem endLine_append (xs ys : List Located) :
    endLine here (xs ++ ys) = endLine (endLine here xs) ys :=
  List.foldl_append

theorem endLine_concat (xs : List Located) (x : Located) :
    endLine here (xs ++ [x]) = x.lastLine := by
  rw [endLine_append]
  rfl

theorem take_bar (a : Alternative) :
    Stage.take (.body line key closed a.lexemes) ⟨here, .bar⟩ =
      .ok (.body line key (closed ++ [a]) [], none) := by
  rw [Stage.take, closeAlternative_eq_ok_iff.mpr rfl]
  rfl

theorem take_semicolon (a : Alternative) :
    Stage.take (.body line key closed a.lexemes) ⟨here, .semicolon⟩ =
      .ok (.start, some ⟨line, key, closed ++ [a]⟩) := by
  have hne : ¬ (closed = [] ∧ a.lexemes = []) := by
    cases a <;> simp [Alternative.lexemes]
  rw [Stage.take, if_neg hne, closeAlternative_eq_ok_iff.mpr rfl]
  rfl

/-- The alternatives of a body are closed one after another, and the semicolon gives the rule. -/
theorem readFrom_body {body : List Alternative} {xs rest : List Located} (hbody : body ≠ [])
    (h : xs.map (·.lexeme) = bodyLexemes body ++ [.semicolon]) :
    readFrom fault here (.body line key closed []) (xs ++ rest) =
      (readFrom fault (endLine here xs) .start rest).cons ⟨line, key, closed ++ body⟩ := by
  induction body generalizing closed xs here with
  | nil => exact (hbody rfl).elim
  | cons a body ih =>
    by_cases hlast : body = []
    · subst hlast
      rw [bodyLexemes_singleton] at h
      obtain ⟨ys, zs, rfl, hys, hzs⟩ := List.map_eq_append_iff.mp h
      obtain ⟨i, rfl⟩ := exists_singleton_of_map hzs
      rw [List.append_assoc, readFrom_alternative hys, endLine_append]
      exact readFrom_cons_of_take_rule (take_semicolon a)
    · rw [bodyLexemes_cons hlast, List.append_assoc] at h
      obtain ⟨ys, zs, rfl, hys, hzs⟩ := List.map_eq_append_iff.mp h
      obtain ⟨i, zs, rfl, hrest⟩ := exists_cons_of_map hzs
      rw [List.append_assoc, readFrom_alternative hys, endLine_append, List.cons_append,
        readFrom_cons_of_take (take_bar a), ih hlast hrest, List.append_assoc,
        List.singleton_append]
      rfl

/-- The lexemes of a rule give the rule, whose line is that of its name, whatever follows. -/
theorem readFrom_rule {xs rest : List Located} (hline : x.line = r.line)
    (h : (x :: xs).map (·.lexeme) = r.lexemes) :
    readFrom fault here .start (x :: xs ++ rest) =
      (readFrom fault (endLine here (x :: xs)) .start rest).cons r := by
  obtain ⟨line, key, body⟩ := r
  obtain ⟨i, _⟩ := x
  obtain rfl : i = line := hline
  obtain ⟨rfl, htail⟩ := List.cons.inj h
  obtain ⟨j, ys, rfl, hys⟩ := exists_cons_of_map htail
  rw [List.cons_append, List.cons_append, readFrom_cons_of_take rfl, readFrom_cons_of_take rfl]
  by_cases hbody : body = []
  · subst hbody
    obtain ⟨k, rfl⟩ := exists_singleton_of_map hys
    exact readFrom_cons_of_take_rule rfl
  · exact readFrom_body hbody hys

/-- The lexemes of rules are read without a fault, and give rules with the same productions. -/
theorem readFrom_rules {rules : List Rule} {xs : List Located}
    (h : xs.map (·.lexeme) = rules.flatMap Rule.lexemes) :
    (readFrom none here .start xs).fault = none ∧
      (readFrom none here .start xs).items.flatMap productions = rules.flatMap productions := by
  induction rules generalizing here xs with
  | nil =>
    obtain rfl := List.map_eq_nil_iff.mp h
    exact ⟨rfl, rfl⟩
  | cons r rules ih =>
    rw [List.flatMap_cons] at h
    obtain ⟨ys, zs, rfl, hys, hzs⟩ := List.map_eq_append_iff.mp h
    obtain ⟨y, ys, rfl, -, -⟩ := List.map_eq_cons_iff.mp hys
    have hfirst : readFrom none here .start (y :: ys ++ zs) =
        (readFrom none (endLine here (y :: ys)) .start zs).cons { r with line := y.line } :=
      readFrom_rule rfl hys
    obtain ⟨hfault, hitems⟩ :
        (readFrom none (endLine here (y :: ys)) .start zs).fault = none ∧
          (readFrom none (endLine here (y :: ys)) .start zs).items.flatMap productions =
            rules.flatMap productions := ih hzs
    rw [hfirst, Reading.fault_cons, Reading.items_cons, List.flatMap_cons, hitems,
      List.flatMap_cons]
    exact ⟨hfault, rfl⟩

end Rule

end ChomskyChart
