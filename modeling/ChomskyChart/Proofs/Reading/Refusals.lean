import ChomskyChart.Proofs.Reading.Offence

/-!
# What comes of a text

A text gives a grammar whose names are spelled with symbol characters and of which no rule repeats
another one, or an error of one of six kinds. The other kinds do not arise from a text: what it
names is never empty, and a rule that is repeated is reported with its line. Every line that is
reported is one of the text.
-/
namespace ChomskyChart

/-- The text has this line, counted from one. -/
def HasLine (text : List Char) (line : Nat) : Prop := 1 ≤ line ∧ line ≤ 1 + text.count '\n'

theorem hasLine_lineBehind {text front rest : List Char} (h : text = front ++ rest) :
    HasLine text (lineBehind front) := by
  rw [h, HasLine, lineBehind, List.count_append]
  omega

/-- What a text can be refused with. An alternative that is refused is reported with the rule that
is being read and with all its lexemes in their order. -/
inductive Refusal (text : String) : GrammarError → Prop
  | unexpectedChar {line : Nat} {c : Char} (h : HasLine text.toList line) :
      Refusal text (.unexpectedChar line c)
  | unclosedLiteral {line : Nat} (h : HasLine text.toList line) :
      Refusal text (.unclosedLiteral line)
  | unexpectedLexeme {line : Nat} {x : Lexeme} {expected : Expected}
      (h : HasLine text.toList line) : Refusal text (.unexpectedLexeme line x expected)
  | unexpectedEnd {line : Nat} {expected : Expected} (h : HasLine text.toList line) :
      Refusal text (.unexpectedEnd line expected)
  | notChomskyNormal {key : String} {before alternative : List Located} {mark : Located}
      (h : HasLine text.toList mark.line)
      (offence : Offence (Lexeme.scan text).items key before alternative mark)
      (message :
        (GrammarError.notChomskyNormal mark.line key (alternative.map (·.lexeme))).message =
          lineMark mark.line ++ "alternative '" ++
            " ".intercalate (alternative.map (·.lexeme.text)) ++ "' of '" ++ key ++
              "' is not in Chomsky Normal Form") :
      Refusal text (.notChomskyNormal mark.line key (alternative.map (·.lexeme)))
  | repeated {line : Nat} {p : Production} (h : HasLine text.toList line) :
      Refusal text (.invalid line (.duplicate p))

variable {text : String} {e : GrammarError}

/-- Whatever is written as a symbol is spelled with symbol characters. -/
theorem Written.isSymbol {xs : List Lexeme} {cs : List Char} (h : Written xs cs) {name : String}
    (hname : .symbol name ∈ xs) : IsSymbol name := by
  induction h with
  | nil => cases hname
  | concat _ _ _ last ih =>
    rcases List.mem_append.mp hname with hname | hname
    · exact ih hname
    · obtain rfl := List.mem_singleton.mp hname
      cases last with
      | symbol hsymbol => exact hsymbol

/-- The productions that a text describes are well-formed, so rules are refused as repeats only. -/
theorem eq_duplicate_of_written {done rule : List Lexeme} {ps qs : List Production}
    {whole : List Char} (added : Written (done ++ rule) whole) (complete : GrammarForm done ps)
    (form : RuleForm rule qs) (h : Grammar.build (ps ++ qs) = .error e) :
    ∃ p ∈ ps ++ qs, e = .duplicate p := by
  refine Grammar.eq_duplicate_of_build (fun p hp name hname => ?_) h
  have hsymbol : .symbol name ∈ done ++ rule := by
    rcases List.mem_append.mp hp with hp | hp
    · exact List.mem_append_left rule (complete.symbol_mem p hp name hname)
    · exact List.mem_append_right done (form.symbol_mem p hp name hname)
  exact (added.isSymbol hsymbol).1

theorem refusal_of_blames (h : Blames text.toList e) : Refusal text e := by
  cases h with
  | unexpectedChar place => exact .unexpectedChar (hasLine_lineBehind place)
  | unclosedLiteral place => exact .unclosedLiteral (hasLine_lineBehind place)
  | unexpectedLexeme place =>
    rw [List.append_assoc] at place
    exact .unexpectedLexeme (hasLine_lineBehind place)
  | unexpectedEnd place =>
    rw [List.append_assoc] at place
    exact .unexpectedEnd (hasLine_lineBehind place)
  | invalid place _ _ complete _ _ added form hrefused =>
    obtain ⟨p, -, rfl⟩ := eq_duplicate_of_written added complete form hrefused
    rw [List.append_assoc] at place
    exact .repeated (hasLine_lineBehind place)

theorem message_notChomskyNormal {line : Nat} {key : String} {alternative : List Lexeme} :
    (GrammarError.notChomskyNormal line key alternative).message =
      lineMark line ++ "alternative '" ++ alternativeText alternative ++ "' of '" ++ key ++
        "' is not in Chomsky Normal Form" :=
  rfl

theorem refusal_of_offence {key : String} {before alternative : List Located} {mark : Located}
    (h : Offence (Lexeme.scan text).items key before alternative mark) :
    Refusal text (.notChomskyNormal mark.line key (alternative.map (·.lexeme))) := by
  obtain ⟨after, hitems⟩ := h.items_eq
  obtain ⟨front, word, rest, htext, -, -, -, hline⟩ := exists_place hitems
  rw [List.append_assoc] at htext
  have hplace : HasLine text.toList mark.line := by
    rw [hline]
    exact hasLine_lineBehind htext
  refine .notChomskyNormal hplace h ?_
  rw [message_notChomskyNormal, alternativeText, List.map_map, Function.comp_def]

/-- A text is read as a grammar of symbols and distinct rules, or refused with an error about one of
its lines. -/
theorem Grammar.ofText_outcome (text : String) :
    match ofText text with
    | .ok g => (∀ p ∈ g.toList, ∀ name ∈ p.names, IsSymbol name) ∧ DistinctRules g.toList
    | .error e => Refusal text e := by
  cases h : ofText text with
  | ok g =>
    refine ⟨fun p hp name hname => isSymbol_of_ofText h hp hname, ?_⟩
    rw [ofText, ofRules_eq_ok_iff, build_eq_ok_iff] at h
    obtain ⟨-, -, hdistinct, rfl⟩ := h
    exact hdistinct
  | error e =>
    rcases blames_or_offends_of_ofText h with hblames | ⟨_, _, _, _, hoffence, rfl⟩
    · exact refusal_of_blames hblames
    · exact refusal_of_offence hoffence

end ChomskyChart
