import ChomskyChart.Proofs.Reading.Text

/-!
# The first fault is final

Reading a text looks one character ahead at most, and never over the end of a line. So what is read
from a text is what is read first if something follows on a line of its own, and a fault stays the
first one. Only a fault that is about the end of the text may go away, when the text goes on.
-/
namespace ChomskyChart

/-- Something is missing at the end of a text, or a literal runs up to it. -/
inductive GrammarError.AtEnd : GrammarError → Prop
  | unclosedLiteral {line : Nat} : AtEnd (.unclosedLiteral line)
  | unexpectedEnd {line : Nat} {expected : Expected} : AtEnd (.unexpectedEnd line expected)

/-- A reading of more than the first one is of: it begins with the same pieces, and nothing follows
a fault other than one at the end. -/
structure Reading.Extends {α : Type} (r r' : Reading α) : Prop where
  items_prefix : r.items <+: r'.items
  final : ∀ e, r.fault = some e → ¬ e.AtEnd → r' = r

namespace Reading.Extends

variable {α : Type} {r r' : Reading α}

theorem refl (r : Reading α) : Extends r r := ⟨List.prefix_rfl, fun _ _ _ => rfl⟩

/-- Everything extends a reading that gets to the end of the text without a piece. -/
theorem of_stop {fault : Option GrammarError} (h : ∀ e, fault = some e → e.AtEnd)
    (r : Reading α) : Extends (.stop fault) r :=
  ⟨List.nil_prefix, fun e he hend => absurd (h e he) hend⟩

theorem cons (h : Extends r r') (item : α) : Extends (r.cons item) (r'.cons item) :=
  ⟨(List.prefix_cons_inj item).mpr h.items_prefix,
    fun e he hend => congrArg (Reading.cons item) (h.final e he hend)⟩

end Reading.Extends

open Reading (Extends)

/-! ## From characters to rules -/

namespace Lexeme

/-- A line feed is not what a character that begins nothing lacks. -/
theorem Stray.newline {c : Char} {rest : List Char} (h : Stray c rest) (more : List Char) :
    Stray c (rest ++ '\n' :: more) where
  not_blank := h.not_blank
  not_mark := h.not_mark
  not_symbolChar := h.not_symbolChar
  not_becomes hc := by
    have hhead := h.not_becomes hc
    cases rest with
    | nil => simp
    | cons d rest => simpa using hhead

theorem scanFrom_extends (line : Nat) (cs more : List Char) :
    Extends (scanFrom line cs) (scanFrom line (cs ++ '\n' :: more)) := by
  induction cs using scan_induction generalizing line with
  | nil =>
    rw [scanFrom.eq_def line []]
    refine .of_stop ?_ _
    nofun
  | stray c cs hstray =>
    rw [hstray.scanFrom_eq, List.cons_append, (hstray.newline more).scanFrom_eq]
    exact .refl _
  | unclosed quote cs hquote hclose =>
    rw [scanFrom_unclosed hquote hclose]
    refine .of_stop ?_ _
    rintro _ ⟨⟩
    exact .unclosedLiteral
  | piece word cs found hpiece ih =>
    rw [hpiece.taken.scanFrom_eq, hpiece.taken.scanFrom_append line ('\n' :: more) (by simp)]
    cases found with
    | none => exact ih _
    | some lexeme => exact (ih _).cons _

end Lexeme

namespace Rule

theorem Stage.atEnd_of_missing? {here : Nat} {stage : Stage} {e : GrammarError}
    (h : stage.missing? here = some e) : e.AtEnd := by
  cases stage with
  | start => cases h
  | named => cases h; exact .unexpectedEnd
  | body => cases h; exact .unexpectedEnd

/-- More lexemes may follow where the lexemes ended without a fault or at the end of the text. -/
theorem readFrom_extends {fault : Option GrammarError} (h : ∀ e, fault = some e → e.AtEnd)
    (fault' : Option GrammarError) (here : Nat) (stage : Stage) (xs more : List Located) :
    Extends (readFrom fault here stage xs) (readFrom fault' here stage (xs ++ more)) := by
  induction xs generalizing here stage with
  | nil =>
    refine .of_stop (fun e he => ?_) _
    cases fault with
    | some e' => exact h e he
    | none => exact Stage.atEnd_of_missing? he
  | cons x xs ih =>
    rw [List.cons_append, readFrom, readFrom]
    rcases stage.take x with e | ⟨stage', _ | rule⟩
    · exact .refl _
    · exact ih _ stage'
    · exact (ih _ stage').cons rule

theorem read_extends {lexemes lexemes' : Reading Located} (h : Extends lexemes lexemes') :
    Extends (read lexemes) (read lexemes') := by
  by_cases hend : ∀ e, lexemes.fault = some e → e.AtEnd
  · obtain ⟨more, hmore⟩ := h.items_prefix
    rw [read, read, ← hmore]
    exact readFrom_extends hend _ _ _ _ _
  · push Not at hend
    obtain ⟨e, he, hfinal⟩ := hend
    rw [h.final e he hfinal]
    exact .refl _

end Rule

/-! ## Texts -/

namespace Grammar

/-- Rules that are refused are refused for the same reason with more rules behind them. -/
theorem ofRules_eq_error_of_extends {rules rules' : Reading Rule} (h : Extends rules rules')
    {e : GrammarError} (hrefused : ofRules rules = .error e) (hend : ¬ e.AtEnd) :
    ofRules rules' = .error e := by
  rcases ofRules_eq_error_iff.mp hrefused with hstored | ⟨-, hfault⟩
  · obtain ⟨more, hmore⟩ := h.items_prefix
    refine ofRules_eq_error_iff.mpr (.inl ?_)
    rw [← hmore, List.foldlM_append, hstored]
    rfl
  · rw [h.final e hfault hend]
    exact hrefused

/-- A text that is refused is refused with the same error whatever follows on a line of its own,
unless the error is about the end of the text. -/
theorem ofText_eq_error_append {text : String} {e : GrammarError} (h : ofText text = .error e)
    (hend : ¬ e.AtEnd) (more : String) : ofText (text ++ "\n" ++ more) = .error e := by
  have hchars : (text ++ "\n" ++ more).toList = text.toList ++ '\n' :: more.toList := by simp
  have hscan : Extends (Lexeme.scan text) (Lexeme.scan (text ++ "\n" ++ more)) := by
    rw [Lexeme.scan, Lexeme.scan, hchars]
    exact Lexeme.scanFrom_extends 1 text.toList more.toList
  exact ofRules_eq_error_of_extends (Rule.read_extends hscan) h hend

/-- A colon at the end of a text is not completed by what stands on the next line. -/
theorem ofText_eq_error_append_colon :
    ofText "S :" = .error (.unexpectedChar 1 ':') ∧
      ofText ("S :" ++ "\n" ++ "= 'a' ;") = .error (.unexpectedChar 1 ':') := by
  have hrefused : ofText "S :" = .error (.unexpectedChar 1 ':') :=
    eq_error_iff_map_toList.mpr (by decide +kernel)
  exact ⟨hrefused, ofText_eq_error_append hrefused nofun _⟩

/-- A literal that is not closed may be closed on the next line. -/
example : (ofText "S := 'a").map toList = .error (.unclosedLiteral 1) ∧
    (ofText ("S := 'a" ++ "\n" ++ "' ;")).map toList = .ok [.terminal "S" ["a\n"]] := by
  decide +kernel

end Grammar

end ChomskyChart
