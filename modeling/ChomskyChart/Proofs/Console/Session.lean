import ChomskyChart.Proofs.Console.Prompt
import ChomskyChart.Proofs.Text.Words

/-!
# A sentence on the command line and at the prompt

A sentence is reported on by its words alone, so it may be given on the command line or entered as
a line, with more white space or less. The commands behind it look at the same parses as a report
with more options would. Only backspaces tell the two ways apart: they are at work in a line that
is entered, and characters like any other on the command line.
-/
namespace ChomskyChart.Console

open Unicode (isWhiteSpace)

/-- What a run without a sentence does when these lines are entered. -/
def atPrompt (file source : String) (o : Options) (lines : List String) : Outcome :=
  (Invocation.mk file [] o).outcome (.ok source) (entered lines)

/-- What a run with the words of a sentence does, with any input. -/
def onCommandLine (file source : String) (o : Options) (sentence : List String) (input : String) :
    Outcome :=
  (Invocation.mk file sentence o).outcome (.ok source) input

/-- A report on a sentence with the keys of every parse, and with the spans of a symbol among those
of other symbols, next to what two commands answer about keys and spans: they are told of the same
parses with the same numbers, and there are answers only if there are parses. -/
structure Retold (g : Grammar) (o : Options) (tokens : List String) (symbol : String)
    (front back : List String) (reported keys spans : String) : Prop where
  reported_eq : reported = if selected g o tokens = [] then "no parse\n" else
    numbered (selected g o tokens) fun i t => number i ++ " " ++ t.text ++ "\n" ++
      "   keys: " ++ keysText t ++ "\n" ++ String.join (front.map (spansLine · t)) ++
      spansLine symbol t ++ String.join (back.map (spansLine · t)) ++
      if o.tree then t.drawing else ""
  keys_eq : keys =
    numbered (selected g o tokens) fun i t => number i ++ " " ++ keysText t ++ "\n"
  spans_eq : spans =
    numbered (selected g o tokens) fun i t => number i ++ "\n" ++ spansLine symbol t
  keys_silent : keys = "" ↔ reported = "no parse\n"
  spans_silent : spans = "" ↔ reported = "no parse\n"

variable {g : Grammar} {o : Options} {source file : String} {i : Invocation}

/-! ## Lines of an input -/

/-- A line without a backspace reaches the prompt as it is. -/
theorem typedLine?_eq {line : String} (h : Text.backspace ∉ line.toList) :
    typedLine? line = some (.ofText line) := by
  rw [typedLine?, Text.erased?, Text.erase?_eq_self h, Option.map_some, Option.map_some,
    String.ofList_toList]

/-- A line that begins with something else than a colon is a sentence of its words. -/
theorem Line.ofText_eq_sentence {text : String} {c : Char}
    (hfirst : (Text.trim text.toList).head? = some c) (hc : c ≠ ':') :
    Line.ofText text = .sentence (Text.words text) := by
  rw [Line.ofText]
  split
  · next htrim =>
    rw [htrim] at hfirst
    cases hfirst
  · next htrim =>
    rw [htrim] at hfirst
    exact absurd (Option.some.inj hfirst).symm hc
  · rfl

/-- The command to span a symbol. -/
theorem Line.ofText_spans {symbol : String} (hne : symbol ≠ "")
    (hsymbol : ∀ c ∈ symbol.toList, isWhiteSpace c = false) :
    Line.ofText (":spans " ++ symbol) = .command (.spans symbol) := by
  have hchars : symbol.toList ≠ [] := fun h => hne (String.toList_inj.mp h)
  have hword : Text.wordsOf symbol.toList = [symbol.toList] := Text.wordsOf_word hchars hsymbol
  have htext : (":spans " ++ symbol).toList =
      ':' :: ("spans ".toList ++ symbol.toList.dropLast) ++ [symbol.toList.getLast hchars] := by
    rw [List.cons_append, List.append_assoc, List.dropLast_append_getLast, String.toList_append]
    rfl
  have htrim : Text.trim (":spans " ++ symbol).toList =
      ':' :: ("spans ".toList ++ symbol.toList) := by
    rw [htext, Text.trim_eq_self (by decide) (hsymbol _ (List.getLast_mem hchars)),
      List.cons_append, List.append_assoc, List.dropLast_append_getLast]
  have hwords : Text.words (String.ofList ("spans ".toList ++ symbol.toList)) =
      ["spans", symbol] := by
    have hsplit : "spans ".toList ++ symbol.toList = "spans".toList ++ ' ' :: symbol.toList := rfl
    rw [Text.words, String.toList_ofList, hsplit, Text.wordsOf_append_blank (by decide), hword,
      Text.wordsOf_word (by decide) (Text.forall_isWhiteSpace_eq_false_iff.mpr (by decide))]
    simp [String.ofList_toList]
  rw [Line.ofText, htrim]
  simp only [Command.ofText, hwords]

/-! ## Prompts -/

theorem transcript_append {last : List String} (before after : List Line) :
    transcript g o last (before ++ after) =
      transcript g o last before ++ transcript g o (remembered last before) after := by
  rw [transcript_eq_join, transcript_eq_join, transcript_eq_join, answers_append,
    String.join_append]

theorem transcript_concat (before : List Line) (line : Line) :
    transcript g o [] (before ++ [line]) = transcript g o [] before ++ line.reply g o before := by
  have hline : transcript g o (remembered [] before) [line] = line.reply g o before := by
    rw [transcript_eq_join, answers, answers, Line.snd_answer, String.join_cons, String.join_nil,
      String.append_empty]
  rw [transcript_append, hline]

/-- A prompt answers all lines of an input that none of them breaks. -/
theorem outcome_prompt (hg : Grammar.ofText source = .ok g) (hprompt : i.sentence = [])
    {input : String} (h : ReadToEnd input) :
    i.outcome (.ok source) input =
      .printed (transcript g i.options [] ((Text.lines input).filterMap typedLine?)) := by
  have hopening : i.opening (.ok source) = .prompt g := by
    rw [Invocation.opening]
    simp only [hg, hprompt, ↓reduceIte]
  have htyped := isSome_of_mem_map_typedLine? h
  have hnone : none ∉ (Text.lines input).map typedLine? := fun hmem =>
    Bool.false_ne_true (htyped none hmem)
  rw [Invocation.outcome, hopening]
  dsimp only
  rw [served, closed, if_neg hnone, unbroken_eq_filterMap htyped, List.filterMap_map]
  rfl

/-- Lines that can be read are all answered. -/
theorem atPrompt_eq (hg : Grammar.ofText source = .ok g) {lines : List String}
    (h : Readable lines) :
    atPrompt file source o lines = .printed (transcript g o [] (lines.filterMap typedLine?)) := by
  rw [atPrompt, outcome_prompt hg rfl h.readToEnd,
    lines_entered fun line hline => (h line hline).1]

/-- A line that is entered last adds its reply. -/
theorem atPrompt_concat (hg : Grammar.ofText source = .ok g) {lines : List String}
    (hlines : Readable lines) {text : String} {line : Line} (hend : '\n' ∉ text.toList)
    (hline : typedLine? text = some line) :
    atPrompt file source o (lines ++ [text]) =
      .printed ((atPrompt file source o lines).stdout ++
        line.reply g o (lines.filterMap typedLine?)) := by
  rw [atPrompt_eq hg (hlines.append (readable_singleton hend hline)), atPrompt_eq hg hlines,
    List.filterMap_append, List.filterMap_cons, hline, List.filterMap_nil, transcript_concat]
  rfl

/-! ## Reports -/

theorem outcome_sentence (hg : Grammar.ofText source = .ok g) (hsentence : i.sentence ≠ [])
    (input : String) :
    i.outcome (.ok source) input =
      .printed (report g i.options (Text.words (" ".intercalate i.sentence))) := by
  have hopening : i.opening (.ok source) =
      .ended (.printed (report g i.options (Text.words (" ".intercalate i.sentence)))) := by
    rw [Invocation.opening]
    simp only [hg, hsentence, ↓reduceIte]
  rw [Invocation.outcome, hopening]

theorem report_eq (tokens : List String) :
    report g o tokens =
      if selected g o tokens = [] then "no parse\n" else
        numbered (selected g o tokens) (entry o) := by
  rw [report]
  cases selected g o tokens <;> rfl

/-- A numbering of something begins with the mark of a number. -/
theorem head?_numbered {found : Cell} {text : Nat → Tree → String} (hfound : found ≠ [])
    (htext : ∀ i t, ∃ rest, text i t = number i ++ rest) :
    (numbered found text).toList.head? = some '#' := by
  cases found with
  | nil => exact absurd rfl hfound
  | cons t found =>
    obtain ⟨rest, hrest⟩ := htext 0 t
    rw [numbered, List.zipIdx_cons, List.map_cons, String.join_cons]
    dsimp only
    rw [hrest, number, String.append_assoc, String.append_assoc, String.toList_append]
    rfl

theorem numbered_eq_empty_iff {found : Cell} {text : Nat → Tree → String}
    (htext : ∀ i t, ∃ rest, text i t = number i ++ rest) :
    numbered found text = "" ↔ found = [] := by
  constructor
  · intro h
    by_contra hfound
    have hmark := head?_numbered hfound htext
    rw [h] at hmark
    cases hmark
  · rintro rfl
    rfl

/-- A report on parses does not read like one on none. -/
theorem report_eq_no_parse_iff (tokens : List String) :
    report g o tokens = "no parse\n" ↔ selected g o tokens = [] := by
  rw [report_eq]
  by_cases hfound : selected g o tokens = []
  · rw [if_pos hfound]
    exact iff_of_true rfl hfound
  · have hentry : ∀ i t, ∃ rest, entry o i t = number i ++ rest := by
      intro i t
      simp only [entry, String.append_assoc]
      exact ⟨_, rfl⟩
    rw [if_neg hfound]
    refine iff_of_false (fun h => ?_) hfound
    have hmark := head?_numbered hfound hentry
    rw [h] at hmark
    exact absurd hmark (by decide)

/-- A report with the keys and with one more symbol to span shows the parses that the commands
look at, since neither option bears on which parses are selected. -/
theorem retold (tokens front back : List String) (symbol : String) :
    Retold g o tokens symbol front back
      (report g { o with keys := true, spans := front ++ symbol :: back } tokens)
      (Command.keys.answer g o tokens) ((Command.spans symbol).answer g o tokens) := by
  have hselected : selected g { o with keys := true, spans := front ++ symbol :: back } tokens =
      selected g o tokens := rfl
  have hentry : entry { o with keys := true, spans := front ++ symbol :: back } =
      fun i t => number i ++ " " ++ t.text ++ "\n" ++ "   keys: " ++ keysText t ++ "\n" ++
        String.join (front.map (spansLine · t)) ++ spansLine symbol t ++
        String.join (back.map (spansLine · t)) ++ if o.tree then t.drawing else "" := by
    funext i t
    rw [entry, List.map_append, List.map_cons, String.join_append, String.join_cons]
    simp only [↓reduceIte, String.append_assoc]
  have hkeys : Command.keys.answer g o tokens = numbered (selected g o tokens) fun i t =>
      number i ++ " " ++ keysText t ++ "\n" := rfl
  have hspans : (Command.spans symbol).answer g o tokens = numbered (selected g o tokens) fun i t =>
      number i ++ "\n" ++ spansLine symbol t := rfl
  refine ⟨?_, hkeys, hspans, ?_, ?_⟩
  · rw [report_eq, hselected, hentry]
  · rw [report_eq_no_parse_iff, hselected, hkeys]
    refine numbered_eq_empty_iff fun i t => ?_
    simp only [String.append_assoc]
    exact ⟨_, rfl⟩
  · rw [report_eq_no_parse_iff, hselected, hspans]
    refine numbered_eq_empty_iff fun i t => ?_
    simp only [String.append_assoc]
    exact ⟨_, rfl⟩

/-! ## Both ways -/

/-- White space apart, a line is settled by its words: if these are the words of a sentence without
a backspace, then the line reaches the prompt as this sentence. -/
theorem typedLine?_sentence {sentence typed : String} {c : Char} {rest : List Char}
    (hfirst : Text.trim sentence.toList = c :: rest) (hc : c ≠ ':')
    (hkeyed : Text.backspace ∉ sentence.toList) (hwords : Text.words typed = Text.words sentence) :
    typedLine? typed = some (.sentence (Text.words sentence)) := by
  have hchars : Text.wordsOf typed.toList = Text.wordsOf sentence.toList :=
    List.map_injective_iff.mpr (fun _ _ => String.ofList_inj.mp) hwords
  have htyped : Text.backspace ∉ typed.toList := by
    rw [← Text.mem_flatten_wordsOf_iff (by decide), hchars,
      Text.mem_flatten_wordsOf_iff (by decide)]
    exact hkeyed
  have hhead : (Text.trim typed.toList).head? = some c := by
    rw [Text.head?_trim, hchars, ← Text.head?_trim, hfirst]
    rfl
  rw [typedLine?_eq htyped, Line.ofText_eq_sentence hhead hc, hwords]

/-- A sentence is given on the command line in words, or entered as a line with the same words. If
it is no command, not blank and without a backspace, then both ways print the same, with any
options and whatever was entered before. The answers to `:keys` and `:spans`, for a symbol that
can be entered, tell the same as a report on this sentence with the keys and the spans of this
symbol, next to those of any other symbols. -/
theorem sentence_both_ways {sentence : List String} {typed : String} {c : Char} {rest : List Char}
    (hg : Grammar.ofText source = .ok g)
    (hfirst : Text.trim (" ".intercalate sentence).toList = c :: rest) (hc : c ≠ ':')
    (hkeyed : Text.backspace ∉ (" ".intercalate sentence).toList)
    (hend : '\n' ∉ typed.toList)
    (hwords : Text.words typed = Text.words (" ".intercalate sentence)) :
    (∀ earlier, Readable earlier → ∃ printed,
      (∀ input, onCommandLine file source o sentence input = .printed printed) ∧
        atPrompt file source o (earlier ++ [typed]) =
          .printed ((atPrompt file source o earlier).stdout ++ printed)) ∧
      ∀ (symbol : String) (front back earlier : List String), symbol ≠ "" →
        (∀ c ∈ symbol.toList, isWhiteSpace c = false) → Text.backspace ∉ symbol.toList →
        Readable earlier →
        ∃ reported keys spans : String,
          Retold g o (Text.words (" ".intercalate sentence)) symbol front back reported keys spans ∧
          (∀ input, onCommandLine file source
              { o with keys := true, spans := front ++ symbol :: back } sentence input =
            .printed reported) ∧
          atPrompt file source o (earlier ++ [typed] ++ [":keys"]) =
            .printed ((atPrompt file source o (earlier ++ [typed])).stdout ++ keys) ∧
          atPrompt file source o (earlier ++ [typed] ++ [":spans " ++ symbol]) =
            .printed ((atPrompt file source o (earlier ++ [typed])).stdout ++ spans) := by
  have hsentence : sentence ≠ [] := by
    rintro rfl
    cases hfirst
  have hline : typedLine? typed = some (.sentence (Text.words (" ".intercalate sentence))) :=
    typedLine?_sentence hfirst hc hkeyed hwords
  refine ⟨fun earlier hearlier => ⟨_, outcome_sentence hg hsentence, ?_⟩, ?_⟩
  · exact atPrompt_concat hg hearlier hend hline
  · intro symbol front back earlier hne hsymbol hkeys hearlier
    have hkeysLine : typedLine? ":keys" = some (.command .keys) := by decide +kernel
    have hspansLine : typedLine? (":spans " ++ symbol) = some (.command (.spans symbol)) := by
      rw [typedLine?_eq, Line.ofText_spans hne hsymbol]
      rw [String.toList_append, List.mem_append, not_or]
      exact ⟨by decide, hkeys⟩
    have hbreak : '\n' ∉ (":spans " ++ symbol).toList := by
      rw [String.toList_append, List.mem_append, not_or]
      refine ⟨by decide, fun hmem => ?_⟩
      have := hsymbol _ hmem
      revert this
      decide
    have hremembered : remembered [] ((earlier ++ [typed]).filterMap typedLine?) =
        Text.words (" ".intercalate sentence) := by
      rw [List.filterMap_append, remembered_append, List.filterMap_cons, hline]
      rfl
    have hreadable : Readable (earlier ++ [typed]) :=
      hearlier.append (readable_singleton hend hline)
    refine ⟨_, _, _, retold (Text.words (" ".intercalate sentence)) front back symbol,
      outcome_sentence hg hsentence, ?_, ?_⟩
    · rw [atPrompt_concat hg hreadable (by decide) hkeysLine, Line.reply, hremembered]
    · rw [atPrompt_concat hg hreadable hbreak hspansLine, Line.reply, hremembered]

def pairsText : String := "A := 'a' ; S := A A ;"

def pairs : Grammar := .ofList [.terminal "A" ["a"], .nonterminal "S" "A" "A"]

theorem sentence_both_ways_spaced :
    Grammar.ofText pairsText = .ok pairs ∧
      Text.trim (" ".intercalate ["a", " a"]).toList = 'a' :: [' ', ' ', 'a'] ∧ 'a' ≠ ':' ∧
      Text.backspace ∉ (" ".intercalate ["a", " a"]).toList ∧ '\n' ∉ "\ta a ".toList ∧
      Text.words "\ta a " = Text.words (" ".intercalate ["a", " a"]) ∧
      (∃ printed,
        (∀ input, onCommandLine "pairs.cnf" pairsText { targets := ["S"] } ["a", " a"] input =
          .printed printed) ∧
        atPrompt "pairs.cnf" pairsText { targets := ["S"] } ["b", ":chart", "\ta a "] =
          .printed ((atPrompt "pairs.cnf" pairsText { targets := ["S"] } ["b", ":chart"]).stdout ++
            printed)) ∧
      ∃ reported keys spans,
        Retold pairs { targets := ["S"] } (Text.words (" ".intercalate ["a", " a"])) "A" [] []
            reported keys spans ∧
          (∀ input, onCommandLine "pairs.cnf" pairsText
              { targets := ["S"], keys := true, spans := ["A"] } ["a", " a"] input =
            .printed reported) ∧
          atPrompt "pairs.cnf" pairsText { targets := ["S"] } ["b", ":chart", "\ta a ", ":keys"] =
            .printed ((atPrompt "pairs.cnf" pairsText { targets := ["S"] }
              ["b", ":chart", "\ta a "]).stdout ++ keys) ∧
          atPrompt "pairs.cnf" pairsText { targets := ["S"] }
              ["b", ":chart", "\ta a ", ":spans " ++ "A"] =
            .printed ((atPrompt "pairs.cnf" pairsText { targets := ["S"] }
              ["b", ":chart", "\ta a "]).stdout ++ spans) :=
  have hg : Grammar.ofText pairsText = .ok pairs :=
    Grammar.eq_ok_iff_map_toList.mpr (by decide +kernel)
  have hfirst : Text.trim (" ".intercalate ["a", " a"]).toList = 'a' :: [' ', ' ', 'a'] := by
    decide +kernel
  have hkeyed : Text.backspace ∉ (" ".intercalate ["a", " a"]).toList := by decide +kernel
  have hwords : Text.words "\ta a " = Text.words (" ".intercalate ["a", " a"]) := by decide +kernel
  have hsymbol : ∀ c ∈ "A".toList, isWhiteSpace c = false :=
    Text.forall_isWhiteSpace_eq_false_iff.mpr (by decide)
  have hearlier : Readable ["b", ":chart"] := by decide +kernel
  have h := @sentence_both_ways pairs { targets := ["S"] } pairsText "pairs.cnf" _ _ _ _ hg hfirst
    (by decide) hkeyed (by decide) hwords
  ⟨hg, hfirst, by decide, hkeyed, by decide, hwords, h.1 ["b", ":chart"] hearlier,
    h.2 "A" [] [] ["b", ":chart"] (by decide) hsymbol (by decide) hearlier⟩

/-- A backspace takes back the character before it in a line that is entered, but not in a sentence
on the command line. -/
theorem sentence_with_backspace :
    Grammar.ofText "S := 'a' ;" = .ok (.ofList [.terminal "S" ["a"]]) ∧
      Text.trim (" ".intercalate ["a\x08a"]).toList = 'a' :: ['\x08', 'a'] ∧ 'a' ≠ ':' ∧
      '\n' ∉ (" ".intercalate ["a\x08a"]).toList ∧
      onCommandLine "grammar.cnf" "S := 'a' ;" {} ["a\x08a"] "" = .printed "no parse\n" ∧
      atPrompt "grammar.cnf" "S := 'a' ;" {} [" ".intercalate ["a\x08a"]] =
        .printed "#0 (S a)\n" ∧
      onCommandLine "grammar.cnf" "S := 'a' ;" {} ["a\x08a"] "" ≠
        atPrompt "grammar.cnf" "S := 'a' ;" {} [" ".intercalate ["a\x08a"]] :=
  ⟨Grammar.eq_ok_iff_map_toList.mpr (by decide +kernel), by decide +kernel, by decide,
    by decide +kernel, by decide +kernel, by decide +kernel, by decide +kernel⟩

end ChomskyChart.Console
