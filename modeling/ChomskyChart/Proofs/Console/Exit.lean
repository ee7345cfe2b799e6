import ChomskyChart.Proofs.Chart.Views
import ChomskyChart.Proofs.Console.Session

/-!
# How a run ends

A grammar file that cannot be used ends the run with its reason, before anything else is looked at.
With a grammar the run ends well. Along with the outcome this is said of its look-ups: a run that
fills its charts by strict look-ups, and cuts the tokens of a span out of the last sentence only
where the span lies inside it, has the same outcome, whatever lines are entered.
-/
namespace ChomskyChart.Console

/-! ## Runs with strict look-ups -/

/-- A part of a list, if both bounds lie inside it in this order. -/
def slice? (tokens : List String) (start stop : Nat) : Option (List String) :=
  if start ≤ stop ∧ stop ≤ tokens.length then some (slice tokens start stop) else none

def spanText? (tokens : List String) (s : Span) : Option String :=
  (slice? tokens s.start s.stop).map (spanLine s)

def selected? (g : Grammar) (o : Options) (tokens : List String) : Option Cell :=
  o.byTargets (g.parses? tokens) (g.parsesMatching? tokens)

def report? (g : Grammar) (o : Options) (tokens : List String) : Option String :=
  (selected? g o tokens).map (reportText o)

def Command.answer? (g : Grammar) (o : Options) (last : List String) : Command → Option String
  | grammar => some g.text
  | keys => do return numbered (← selected? g o last) keysEntry
  | spans symbol => do return numbered (← selected? g o last) (spansEntry symbol)
  | chart => do return String.join (← (← g.chart? last).spans.mapM (spanText? last))
  | unknown text => some (unknownText text)

def Line.answer? (g : Grammar) (o : Options) (last : List String) :
    Line → Option (List String × String)
  | blank => some (last, "")
  | command c => do return (last, ← c.answer? g o last)
  | sentence tokens => do return (tokens, ← report? g o tokens)

def transcript? (g : Grammar) (o : Options) (last : List String) : List Line → Option String
  | [] => some ""
  | line :: rest => do
    let (last, answer) ← line.answer? g o last
    return answer ++ (← transcript? g o last rest)

def served? (g : Grammar) (o : Options) (typed : List (Option Line)) : Option Outcome :=
  (transcript? g o [] (unbroken typed)).map (closed typed)

def Invocation.outcome? (i : Invocation) (source : Except FileError String) (input : String) :
    Option Outcome :=
  match source with
  | .error e => some (.failed i.grammarFile e.message)
  | .ok text =>
    match Grammar.ofText text with
    | .error e => some (.failed i.grammarFile e.message)
    | .ok g =>
      if i.sentence = [] then served? g i.options ((Text.lines input).map typedLine?)
      else do return .printed (← report? g i.options (Text.words (" ".intercalate i.sentence)))

/-! ## No look-up fails -/

variable {g : Grammar} {o : Options} {i : Invocation}

/-- The spans of a chart lie inside its tokens. -/
theorem spanText?_eq {tokens : List String} {s : Span} (h : s ∈ (g.chart tokens).spans) :
    spanText? tokens s = some (spanText tokens s) := by
  obtain ⟨hlt, hle⟩ := g.bounds_of_mem_spans tokens h
  rw [spanText?, slice?, if_pos ⟨Nat.le_of_lt hlt, hle⟩]
  rfl

theorem selected?_eq (tokens : List String) :
    selected? g o tokens = some (selected g o tokens) := by
  rw [selected?, g.parses?_eq, g.parsesMatching?_eq, Options.byTargets, selected, Options.byTargets]
  split <;> rfl

theorem report?_eq (tokens : List String) : report? g o tokens = some (report g o tokens) := by
  rw [report?, selected?_eq]
  rfl

/-- A command is answered from the parses and the chart of the last sentence. -/
theorem Command.answer?_eq (last : List String) (c : Command) :
    c.answer? g o last = some (c.answer g o last) := by
  cases c with
  | grammar => rfl
  | keys =>
    rw [answer?, selected?_eq]
    rfl
  | spans symbol =>
    rw [answer?, selected?_eq]
    rfl
  | chart =>
    rw [answer?, g.chart?_eq, Option.bind_eq_bind, Option.bind_some,
      mapM_eq_some_of_forall fun s hs => spanText?_eq hs]
    rfl
  | unknown text => rfl

theorem Line.answer?_eq (last : List String) (line : Line) :
    line.answer? g o last = some (line.answer g o last) := by
  cases line with
  | blank => rfl
  | command c =>
    rw [answer?, c.answer?_eq]
    rfl
  | sentence tokens =>
    rw [answer?, report?_eq]
    rfl

/-- Whatever a line leaves behind, the next one is answered from it without a failure. -/
theorem transcript?_eq (last : List String) (lines : List Line) :
    transcript? g o last lines = some (transcript g o last lines) := by
  induction lines generalizing last with
  | nil => rfl
  | cons line rest ih =>
    rw [transcript?, line.answer?_eq, Option.bind_eq_bind, Option.bind_some]
    dsimp only
    rw [ih]
    rfl

theorem served?_eq (typed : List (Option Line)) : served? g o typed = some (served g o typed) := by
  rw [served?, transcript?_eq]
  rfl

theorem outcome_refused {source : String} {e : GrammarError} (h : Grammar.ofText source = .error e)
    (input : String) : i.outcome (.ok source) input = .failed i.grammarFile e.message := by
  rw [Invocation.outcome, Invocation.opening]
  simp only [h]

theorem outcome?_eq (source : Except FileError String) (input : String) :
    i.outcome? source input = some (i.outcome source input) := by
  cases source with
  | error e => rfl
  | ok source =>
    unfold Invocation.outcome?
    cases hg : Grammar.ofText source with
    | error e => simp only [hg, outcome_refused hg]
    | ok g =>
      by_cases hprompt : i.sentence = []
      · rw [Invocation.outcome, Invocation.opening]
        simp only [hg, hprompt, ↓reduceIte]
        rw [served?_eq]
      · simp only [hg, hprompt, ↓reduceIte]
        rw [report?_eq, outcome_sentence hg hprompt]
        rfl

/-! ## Ends -/

/-- A line can be read unless a backspace meets a cluster of 256 bytes or more. -/
theorem isSome_erased?_of_short {line : String}
    (h : ∀ cluster ∈ Text.clusters line.toList, Text.byteSize cluster < 256) :
    (Text.erased? line).isSome := by
  rw [Text.erased?, Text.erase?_of_short h]
  rfl

/-- A run with a grammar file that cannot be read, or whose text is no grammar, prints nothing but
the reason and ends with code one, whatever else it is given. With a grammar it ends with code zero
and reports no error, if the input is read to its end or a sentence is given. No look-up in a chart,
and no cut out of the tokens of a sentence, is out of range in any run. A line can be read if all
its clusters are short. -/
theorem run_ends {arguments : List String} (h : Request.ofArguments arguments = .ok (.run i))
    (readFile : String → Except FileError String) (input : String) :
    (∀ e, readFile i.grammarFile = .error e →
      run arguments readFile input =
        ⟨1, "", "Error: " ++ Text.quoted (i.grammarFile ++ ": " ++ e.message) ++ "\n"⟩) ∧
    (∀ source e, readFile i.grammarFile = .ok source → Grammar.ofText source = .error e →
      run arguments readFile input =
        ⟨1, "", "Error: " ++ Text.quoted (i.grammarFile ++ ": " ++ e.message) ++ "\n"⟩) ∧
    (∀ source g, readFile i.grammarFile = .ok source → Grammar.ofText source = .ok g →
      (i.sentence = [] → ReadToEnd input) →
      (run arguments readFile input).exitCode = 0 ∧ (run arguments readFile input).stderr = "") ∧
    i.outcome? (readFile i.grammarFile) input = some (run arguments readFile input) ∧
    ∀ line : String, (∀ cluster ∈ Text.clusters line.toList, Text.byteSize cluster < 256) →
      (Text.erased? line).isSome := by
  have hrun : run arguments readFile input = i.outcome (readFile i.grammarFile) input := by
    rw [run, h]
  rw [hrun]
  refine ⟨fun e hfile => ?_, fun source e hfile hsource => ?_, fun source g hfile hg hread => ?_,
    outcome?_eq _ input, fun line => isSome_erased?_of_short⟩
  · rw [hfile]
    rfl
  · rw [hfile, outcome_refused hsource, Outcome.failed]
  · rw [hfile]
    by_cases hsentence : i.sentence = []
    · rw [outcome_prompt hg hsentence (hread hsentence)]
      exact ⟨rfl, rfl⟩
    · rw [outcome_sentence hg hsentence]
      exact ⟨rfl, rfl⟩

def shelf : String → Except FileError String
  | "pairs.cnf" => .ok pairsText
  | "twice.cnf" => .ok "A := 'a' ;\nA := 'a' ;"
  | _ => .error .notFound

theorem run_ends_shelf :
    Request.ofArguments ["none.cnf", "a"] = .ok (.run ⟨"none.cnf", ["a"], {}⟩) ∧
      Request.ofArguments ["-k", "twice.cnf"] = .ok (.run ⟨"twice.cnf", [], { keys := true }⟩) ∧
      Request.ofArguments ["pairs.cnf"] = .ok (.run ⟨"pairs.cnf", [], {}⟩) ∧
      run ["none.cnf", "a"] shelf "" =
        ⟨1, "", "Error: \"none.cnf: No such file or directory (os error 2)\"\n"⟩ ∧
      run ["-k", "twice.cnf"] shelf "a\n" =
        ⟨1, "", "Error: \"twice.cnf: line 2: duplicate production: A -> \\\"a\\\"\"\n"⟩ ∧
      (run ["pairs.cnf"] shelf ":chart\na a\n:chart\n").exitCode = 0 ∧
      (run ["pairs.cnf"] shelf ":chart\na a\n:chart\n").stderr = "" ∧
      (⟨"pairs.cnf", [], {}⟩ : Invocation).outcome? (shelf "pairs.cnf") ":chart\na a\n:chart\n" =
        some (run ["pairs.cnf"] shelf ":chart\na a\n:chart\n") :=
  have hnone : Request.ofArguments ["none.cnf", "a"] = .ok (.run ⟨"none.cnf", ["a"], {}⟩) := rfl
  have htwice : Request.ofArguments ["-k", "twice.cnf"] =
      .ok (.run ⟨"twice.cnf", [], { keys := true }⟩) := rfl
  have hpairs : Request.ofArguments ["pairs.cnf"] = .ok (.run ⟨"pairs.cnf", [], {}⟩) := rfl
  have hrefused : Grammar.ofText "A := 'a' ;\nA := 'a' ;" =
      .error (.invalid 2 (.duplicate (.terminal "A" ["a"]))) :=
    Grammar.eq_error_iff_map_toList.mpr (by decide +kernel)
  have hg : Grammar.ofText pairsText = .ok pairs :=
    Grammar.eq_ok_iff_map_toList.mpr (by decide +kernel)
  have hends := (run_ends hpairs shelf ":chart\na a\n:chart\n").2.2.1 pairsText pairs rfl hg
    fun _ => by decide +kernel
  ⟨hnone, htwice, hpairs, ((run_ends hnone shelf "").1 .notFound rfl).trans (by decide +kernel),
    ((run_ends htwice shelf "a\n").2.1 _ _ rfl hrefused).trans (by decide +kernel), hends.1,
    hends.2, (run_ends hpairs shelf ":chart\na a\n:chart\n").2.2.2.1⟩

end ChomskyChart.Console
