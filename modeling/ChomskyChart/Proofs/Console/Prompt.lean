import ChomskyChart.Console.Run
import ChomskyChart.Proofs.Builder.Acceptance
import ChomskyChart.Proofs.Text.Words

/-!
# What a prompt remembers

The tokens of the last sentence are all that passes from one line to the next: a sentence replaces
them whether or not it has a parse, and nothing else touches them. So every line has an answer of
its own, told from the line and from the nearest sentence before it, and the output of a prompt is
these answers one after another. All this is said of lines first and then of the inputs that they
are entered with, where a line is what its backspaces leave of it.
-/
namespace ChomskyChart.Console

/-- The tokens for which a line is remembered, if it is a sentence. -/
def Line.tokens? : Line → Option (List String)
  | sentence tokens => some tokens
  | _ => none

/-- The tokens of the last sentence among the lines, or `last` if there is none. -/
def remembered (last : List String) (lines : List Line) : List String :=
  (lines.filterMap Line.tokens?).getLast?.getD last

/-- The answers to a row of lines, one for each line. -/
def answers (g : Grammar) (o : Options) (last : List String) : List Line → List String
  | [] => []
  | line :: rest => (line.answer g o last).2 :: answers g o (line.answer g o last).1 rest

/-- What a line prints behind the lines before it: a blank line nothing, a sentence the report on
its tokens, and a command its answer about the nearest sentence. -/
def Line.reply (g : Grammar) (o : Options) (before : List Line) : Line → String
  | blank => ""
  | sentence tokens => report g o tokens
  | command c => c.answer g o (remembered [] before)

/-- The lines of an input as they reach the prompt, with their backspaces at work. The first line
that its backspaces break is not among them, nor is any line after it. -/
def delivered (input : String) : List String :=
  unbroken ((Text.lines input).map Text.erased?)

/-- The answers to an input, one for each line of it that reaches the prompt. -/
def replies (g : Grammar) (o : Options) (input : String) : List String :=
  answers g o [] ((delivered input).map .ofText)

/-- The input made of these lines. -/
def entered (lines : List String) : String :=
  String.join (lines.map (· ++ "\n"))

/-- Lines that reach a prompt as lines: no end of a line is in one, and its backspaces do not
break it. -/
def Readable (lines : List String) : Prop :=
  ∀ line ∈ lines, '\n' ∉ line.toList ∧ (Text.erased? line).isSome

instance (lines : List String) : Decidable (Readable lines) :=
  inferInstanceAs (Decidable (∀ line ∈ lines, '\n' ∉ line.toList ∧ (Text.erased? line).isSome))

/-- The input is read to its end without an error: the line editor gives up on a line that is broken
by its backspaces, and on no other. -/
def ReadToEnd (input : String) : Prop :=
  ∀ line ∈ Text.lines input, (Text.erased? line).isSome

instance (input : String) : Decidable (ReadToEnd input) :=
  inferInstanceAs (Decidable (∀ line ∈ Text.lines input, (Text.erased? line).isSome))

variable {g : Grammar} {o : Options} {last : List String}

/-! ## One step -/

theorem Line.fst_answer (line : Line) : (line.answer g o last).1 = line.tokens?.getD last := by
  cases line <;> rfl

theorem Line.snd_answer (line : Line) (before : List Line) :
    (line.answer g o (remembered [] before)).2 = line.reply g o before := by
  cases line <;> rfl

theorem remembered_append (before after : List Line) :
    remembered last (before ++ after) = remembered (remembered last before) after := by
  rw [remembered, remembered, remembered, List.filterMap_append, List.getLast?_append]
  cases (after.filterMap Line.tokens?).getLast? <;> rfl

theorem remembered_cons (line : Line) (rest : List Line) :
    remembered last (line :: rest) = remembered (line.tokens?.getD last) rest := by
  have hline : remembered last [line] = line.tokens?.getD last := by
    cases line <;> rfl
  rw [← hline, ← remembered_append, List.singleton_append]

/-- Blank lines and commands leave what is remembered as it is. -/
theorem remembered_of_tokens?_eq_none {lines : List Line} (h : ∀ line ∈ lines, line.tokens? = none) :
    remembered last lines = last := by
  rw [remembered, List.filterMap_eq_nil_iff.mpr h]
  rfl

/-! ## Runs -/

theorem length_answers (lines : List Line) : (answers g o last lines).length = lines.length := by
  induction lines generalizing last with
  | nil => rfl
  | cons line rest ih => rw [answers, List.length_cons, List.length_cons, ih]

theorem transcript_eq_join (lines : List Line) :
    transcript g o last lines = String.join (answers g o last lines) := by
  induction lines generalizing last with
  | nil => rfl
  | cons line rest ih => rw [transcript, answers, String.join_cons, ← ih]

/-- A run goes on from what the lines before have left behind. -/
theorem answers_append (before after : List Line) :
    answers g o last (before ++ after) =
      answers g o last before ++ answers g o (remembered last before) after := by
  induction before generalizing last with
  | nil => rfl
  | cons line before ih =>
    rw [List.cons_append, answers, answers, ih, remembered_cons, line.fst_answer, List.cons_append]

/-- Every line is answered as its own words and the lines before it tell. -/
theorem getElem?_answers (lines : List Line) (k : Nat) :
    (answers g o [] lines)[k]? = lines[k]?.map (·.reply g o (lines.take k)) := by
  rcases Nat.lt_or_ge k lines.length with hk | hk
  · have hlines : lines.take k ++ lines[k] :: lines.drop (k + 1) = lines := by
      rw [← List.drop_eq_getElem_cons hk, List.take_append_drop]
    have hlength : (answers g o [] (lines.take k)).length = k := by
      rw [length_answers, List.length_take]
      omega
    have hanswers : answers g o [] lines = answers g o [] (lines.take k) ++
        answers g o (remembered [] (lines.take k)) (lines[k] :: lines.drop (k + 1)) := by
      rw [← answers_append, hlines]
    rw [hanswers, List.getElem?_append_right (by omega), hlength, Nat.sub_self, answers,
      List.getElem?_cons_zero, List.getElem?_eq_getElem hk, Option.map_some, Line.snd_answer]
  · rw [List.getElem?_eq_none hk, List.getElem?_eq_none (by rw [length_answers]; exact hk)]
    rfl

/-- A sentence without a parse is remembered too. -/
example : transcript (.ofList [.terminal "S" ["a"]]) {} []
    ([":keys", "a", " ", ":keys", "b", ":keys"].map .ofText) = "#0 (S a)\n#0 S\nno parse\n" := by
  decide +kernel

/-- Lines that are no sentences change the answer of no other line, wherever they stand. -/
theorem answers_insert {before extra after : List Line} (h : ∀ line ∈ extra, line.tokens? = none) :
    (answers g o last (before ++ extra ++ after)).take before.length =
        (answers g o last (before ++ after)).take before.length ∧
      (answers g o last (before ++ extra ++ after)).drop (before.length + extra.length) =
        (answers g o last (before ++ after)).drop before.length := by
  have hbefore : (answers g o last before).length = before.length := length_answers before
  have hboth : (answers g o last (before ++ extra)).length = before.length + extra.length := by
    rw [length_answers, List.length_append]
  constructor
  · rw [List.append_assoc, answers_append, answers_append before after,
      List.take_left' hbefore, List.take_left' hbefore]
  · rw [answers_append (before ++ extra), answers_append before after, List.drop_left' hbefore,
      List.drop_left' hboth, remembered_append, remembered_of_tokens?_eq_none h]

/-- From a sentence on the lines before it do not matter. -/
theorem answers_sentence (before : List Line) (tokens : List String) (after : List Line) :
    (answers g o last (before ++ .sentence tokens :: after)).drop before.length =
      answers g o [] (.sentence tokens :: after) := by
  rw [answers_append, List.drop_left' (length_answers before)]
  rfl

/-! ## The output of a prompt -/

theorem stdout_served (typed : List (Option Line)) :
    (served g o typed).stdout = String.join (answers g o [] (unbroken typed)) := by
  rw [← transcript_eq_join, served, closed]
  split <;> rfl

theorem unbroken_append {α : Type} {whole : List (Option α)} (h : ∀ a? ∈ whole, a?.isSome)
    (rest : List (Option α)) : unbroken (whole ++ rest) = whole.filterMap id ++ unbroken rest := by
  rw [unbroken, List.takeWhile_append_of_pos h, List.filterMap_append, unbroken]

theorem unbroken_eq_filterMap {α : Type} {whole : List (Option α)} (h : ∀ a? ∈ whole, a?.isSome) :
    unbroken whole = whole.filterMap id := by
  rw [unbroken, List.takeWhile_eq_self_iff.mpr h]

theorem unbroken_map_typedLine? (input : String) :
    unbroken ((Text.lines input).map typedLine?) = (delivered input).map .ofText := by
  have htyped : (Text.lines input).map typedLine? =
      ((Text.lines input).map Text.erased?).map (Option.map .ofText) := by
    rw [List.map_map]
    rfl
  have hbroken : Option.isSome ∘ Option.map Line.ofText = Option.isSome :=
    funext fun line? => Option.isSome_map
  rw [unbroken, htyped, List.takeWhile_map, hbroken, List.filterMap_map, delivered, unbroken,
    List.map_filterMap]
  rfl

/-- Lines without a backspace reach the prompt as they are. -/
theorem delivered_eq_lines {input : String}
    (h : ∀ line ∈ Text.lines input, Text.backspace ∉ line.toList) :
    delivered input = Text.lines input := by
  have herased : (Text.lines input).map Text.erased? = (Text.lines input).map some := by
    refine List.map_congr_left fun line hline => ?_
    rw [Text.erased?, Text.erase?_eq_self (h line hline), Option.map_some, String.ofList_toList]
  rw [delivered, herased, unbroken_eq_filterMap (by simp), List.filterMap_map]
  exact List.filterMap_some

/-! ## Lines that are entered -/

section Entered

variable {lines before extra : List String}

/-- What stands behind the lines that are entered does not change them. -/
theorem lines_entered_append (h : ∀ line ∈ lines, '\n' ∉ line.toList) (rest : String) :
    Text.lines (entered lines ++ rest) = lines ++ Text.lines rest := by
  induction lines with
  | nil =>
    rw [entered, List.map_nil, String.join_nil, String.empty_append]
    rfl
  | cons line lines ih =>
    obtain ⟨hline, hlines⟩ := List.forall_mem_cons.mp h
    have hchars : (entered (line :: lines) ++ rest).toList =
        line.toList ++ '\n' :: (entered lines ++ rest).toList := by
      rw [entered, List.map_cons, String.join_cons, String.append_assoc, String.append_assoc,
        String.toList_append, String.toList_append]
      rfl
    rw [Text.lines, hchars, Text.linesOf_append_newline hline, List.map_cons, String.ofList_toList]
    exact congrArg (line :: ·) (ih hlines)

theorem lines_entered (h : ∀ line ∈ lines, '\n' ∉ line.toList) :
    Text.lines (entered lines) = lines := by
  have hlines := lines_entered_append h ""
  rwa [String.append_empty, show Text.lines "" = [] from rfl, List.append_nil] at hlines

theorem isSome_typedLine? (line : String) :
    (typedLine? line).isSome = (Text.erased? line).isSome :=
  Option.isSome_map

theorem Readable.readToEnd (h : Readable lines) : ReadToEnd (entered lines) := by
  rw [ReadToEnd, lines_entered fun line hline => (h line hline).1]
  exact fun line hline => (h line hline).2

theorem Readable.append (hbefore : Readable before) (hextra : Readable extra) :
    Readable (before ++ extra) :=
  List.forall_mem_append.mpr ⟨hbefore, hextra⟩

theorem readable_singleton {text : String} {line : Line} (hend : '\n' ∉ text.toList)
    (hline : typedLine? text = some line) : Readable [text] := by
  rw [Readable, List.forall_mem_singleton, ← isSome_typedLine?, hline]
  exact ⟨hend, rfl⟩

/-- Lines that are read are whole when they reach the prompt. -/
theorem isSome_of_mem_map_typedLine? (h : ∀ line ∈ lines, (Text.erased? line).isSome) :
    ∀ typed ∈ lines.map typedLine?, typed.isSome := by
  intro typed htyped
  obtain ⟨line, hline, rfl⟩ := List.mem_map.mp htyped
  rw [isSome_typedLine?]
  exact h line hline

theorem Readable.length_filterMap (h : Readable lines) :
    (lines.filterMap typedLine?).length = lines.length := by
  refine List.filterMap_length_eq_length.mpr fun line hline => ?_
  rw [isSome_typedLine?]
  exact (h line hline).2

theorem entered_append (before extra : List String) :
    entered (before ++ extra) = entered before ++ entered extra := by
  rw [entered, List.map_append, String.join_append, entered, entered]

/-- Lines that can be read are answered one by one, before the rest of an input. -/
theorem replies_entered_append (h : Readable lines) (rest : String) :
    replies g o (entered lines ++ rest) =
      answers g o [] (lines.filterMap typedLine? ++ (delivered rest).map .ofText) := by
  have hwhole := isSome_of_mem_map_typedLine? fun line hline => (h line hline).2
  rw [replies, ← unbroken_map_typedLine?, lines_entered_append fun line hline => (h line hline).1,
    List.map_append, unbroken_append hwhole, unbroken_map_typedLine?, List.filterMap_map]
  rfl

/-- Entering lines that are no sentences changes the answer to no other line. -/
theorem replies_insert (hbefore : Readable before) (hextra : Readable extra)
    (h : ∀ line ∈ extra, ∀ typed ∈ typedLine? line, typed.tokens? = none) (rest : String) :
    (replies g o (entered before ++ entered extra ++ rest)).take before.length =
        (replies g o (entered before ++ rest)).take before.length ∧
      (replies g o (entered before ++ entered extra ++ rest)).drop (before.length + extra.length) =
        (replies g o (entered before ++ rest)).drop before.length := by
  have hsilent : ∀ typed ∈ extra.filterMap typedLine?, typed.tokens? = none := by
    intro typed htyped
    obtain ⟨line, hline, hmade⟩ := List.mem_filterMap.mp htyped
    exact h line hline typed hmade
  rw [← entered_append, replies_entered_append (hbefore.append hextra),
    replies_entered_append hbefore, List.filterMap_append, ← hbefore.length_filterMap,
    ← hextra.length_filterMap]
  exact answers_insert hsilent

/-- What was entered before a sentence does not matter to the answers from the sentence on. -/
theorem replies_sentence (hbefore : Readable before) {sentence : String} {tokens : List String}
    (hend : '\n' ∉ sentence.toList) (hsentence : typedLine? sentence = some (.sentence tokens))
    (rest : String) :
    (replies g o (entered before ++ entered [sentence] ++ rest)).drop before.length =
      replies g o (entered [sentence] ++ rest) := by
  have hreadable := readable_singleton hend hsentence
  have hmade : [sentence].filterMap typedLine? = [.sentence tokens] := by
    rw [List.filterMap_cons, hsentence, List.filterMap_nil]
  rw [← entered_append, replies_entered_append (hbefore.append hreadable),
    replies_entered_append hreadable, List.filterMap_append, hmade, List.append_assoc,
    ← hbefore.length_filterMap]
  exact answers_sentence _ tokens _

end Entered

/-- The output of a prompt is made of one answer for each line that reaches it; without backspaces
these are the lines of the input. A blank line prints nothing, a sentence the report on its tokens,
and a command its answer about the nearest sentence before it. The tokens of a sentence are the
words of its line after the backspaces in it have had their effect.
So blank lines and commands may come or go without a change to the answers of the other lines, and
all that stands before a sentence may go without a change to the answers from this sentence on.
This is said of lines, and again of inputs in which lines that can be read are entered before any
text. -/
theorem prompt_compositional {i : Invocation} {source : String} {g : Grammar}
    (hprompt : i.sentence = []) (hg : Grammar.ofText source = .ok g) :
    (∀ input, (i.outcome (.ok source) input).stdout = String.join (replies g i.options input)) ∧
      (∀ input, (∀ line ∈ Text.lines input, Text.backspace ∉ line.toList) →
        delivered input = Text.lines input) ∧
      (∀ (lines : List Line) (k : Nat), (answers g i.options [] lines)[k]? =
        lines[k]?.map (·.reply g i.options (lines.take k))) ∧
      (∀ before extra after : List Line, (∀ line ∈ extra, line.tokens? = none) →
        (answers g i.options [] (before ++ extra ++ after)).take before.length =
            (answers g i.options [] (before ++ after)).take before.length ∧
          (answers g i.options [] (before ++ extra ++ after)).drop (before.length + extra.length) =
            (answers g i.options [] (before ++ after)).drop before.length) ∧
      (∀ (before : List Line) (tokens : List String) (after : List Line),
        (answers g i.options [] (before ++ .sentence tokens :: after)).drop before.length =
          answers g i.options [] (.sentence tokens :: after)) ∧
      (∀ (before extra : List String) (rest : String), Readable before → Readable extra →
        (∀ line ∈ extra, ∀ typed ∈ typedLine? line, typed.tokens? = none) →
        (replies g i.options (entered before ++ entered extra ++ rest)).take before.length =
            (replies g i.options (entered before ++ rest)).take before.length ∧
          (replies g i.options (entered before ++ entered extra ++ rest)).drop
              (before.length + extra.length) =
            (replies g i.options (entered before ++ rest)).drop before.length) ∧
      ∀ (before : List String) (sentence : String) (tokens : List String) (rest : String),
        Readable before → '\n' ∉ sentence.toList →
        typedLine? sentence = some (.sentence tokens) →
        (replies g i.options (entered before ++ entered [sentence] ++ rest)).drop before.length =
          replies g i.options (entered [sentence] ++ rest) := by
  refine ⟨fun input => ?_, fun input => delivered_eq_lines, getElem?_answers,
    fun before extra after => answers_insert, answers_sentence,
    fun before extra rest hbefore hextra h => replies_insert hbefore hextra h rest,
    fun before sentence tokens rest hbefore hend h => replies_sentence hbefore hend h rest⟩
  have hopening : i.opening (.ok source) = .prompt g := by
    rw [Invocation.opening]
    simp only [hg, hprompt, ↓reduceIte]
  rw [Invocation.outcome, hopening, replies, ← unbroken_map_typedLine?]
  exact stdout_served _

def prompting : Invocation := ⟨"pairs.cnf", [], { targets := ["S"], keys := true }⟩

def prompted : Grammar := .ofList [.terminal "S" ["a"], .nonterminal "S" "S" "S"]

def earlier : List Line := [.sentence ["a"], .command .keys]

/-- A line with a backspace is entered too, and read as the sentence that is left. -/
theorem prompt_compositional_pairs :
    prompting.sentence = [] ∧ Grammar.ofText "S := S S | 'a' ;" = .ok prompted ∧
      (prompting.outcome (.ok "S := S S | 'a' ;") "a a\n\n:keys\nb\n:keys\n").stdout =
        String.join (replies prompted prompting.options "a a\n\n:keys\nb\n:keys\n") ∧
      delivered "a a\n\n:keys\nb\n:keys\n" = Text.lines "a a\n\n:keys\nb\n:keys\n" ∧
      (answers prompted prompting.options [] [.sentence ["a", "a"], .blank, .command .keys])[2]? =
        some (Command.keys.answer prompted prompting.options ["a", "a"]) ∧
      (answers prompted prompting.options []
          (earlier ++ [.blank, .command .chart] ++ [.command .keys])).take earlier.length =
        (answers prompted prompting.options [] (earlier ++ [.command .keys])).take earlier.length ∧
      (answers prompted prompting.options []
          (earlier ++ .sentence ["b"] :: [.command .keys])).drop earlier.length =
        answers prompted prompting.options [] (.sentence ["b"] :: [.command .keys]) ∧
      Readable ["b\x08a", ":keys"] ∧ Readable ["", " :chart"] ∧
      (∀ line ∈ ["", " :chart"], ∀ typed ∈ typedLine? line, typed.tokens? = none) ∧
      (replies prompted prompting.options
          (entered ["b\x08a", ":keys"] ++ entered ["", " :chart"] ++ ":keys\n")).drop 4 =
        (replies prompted prompting.options
          (entered ["b\x08a", ":keys"] ++ ":keys\n")).drop 2 ∧
      '\n' ∉ "aa\x08".toList ∧ typedLine? "aa\x08" = some (.sentence ["a"]) ∧
      (replies prompted prompting.options
          (entered ["b\x08a", ":keys"] ++ entered ["aa\x08"] ++ ":keys\n")).drop 2 =
        replies prompted prompting.options (entered ["aa\x08"] ++ ":keys\n") :=
  have hg : Grammar.ofText "S := S S | 'a' ;" = .ok prompted :=
    Grammar.eq_ok_iff_map_toList.mpr (by decide +kernel)
  have h := prompt_compositional (i := prompting) rfl hg
  have hinsert := h.2.2.2.1 earlier [.blank, .command .chart] [.command .keys] (by decide)
  have hbefore : Readable ["b\x08a", ":keys"] := by decide +kernel
  have hextra : Readable ["", " :chart"] := by decide +kernel
  have hsilent : ∀ line ∈ ["", " :chart"], ∀ typed ∈ typedLine? line, typed.tokens? = none := by
    decide +kernel
  have hsentence : typedLine? "aa\x08" = some (.sentence ["a"]) := by decide +kernel
  ⟨rfl, hg, h.1 _, h.2.1 _ (by decide +kernel), h.2.2.1 _ 2, hinsert.1,
    h.2.2.2.2.1 earlier ["b"] [.command .keys], hbefore, hextra, hsilent,
    (h.2.2.2.2.2.1 _ _ ":keys\n" hbefore hextra hsilent).2, by decide, hsentence,
    h.2.2.2.2.2.2 _ _ _ ":keys\n" hbefore (by decide) hsentence⟩

end ChomskyChart.Console
