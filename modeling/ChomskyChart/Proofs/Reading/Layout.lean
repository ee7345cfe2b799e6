import ChomskyChart.Proofs.Reading.Scanning
import ChomskyChart.Proofs.Reading.Rules

/-!
# Layouts of lexemes

A text that writes lexemes in their order, with white space and comments before, between and behind
them, is scanned without a fault as these lexemes, and every text that is scanned without a fault is
such a layout. A text can be cut wherever its lexemes can be cut: what is in front of the cut writes
the lexemes before it, and the scanner goes on behind the cut on the line that stands there.
-/
namespace ChomskyChart

open Unicode (isWhiteSpace)
open Lexeme (isSymbolChar)

/-! ## What is written around lexemes -/

/-- White space, and comments with the line feeds behind them, in any mix. -/
inductive Separator : List Char → Prop
  | nil : Separator []
  | blank {c : Char} {cs : List Char} (h : isWhiteSpace c) (rest : Separator cs) :
      Separator (c :: cs)
  | comment {words cs : List Char} (h : '\n' ∉ words) (rest : Separator cs) :
      Separator ('#' :: words ++ ['\n'] ++ cs)

/-- What may stand behind the last separator of a text: nothing, or a comment that the end of the
text ends. -/
inductive Remainder : List Char → Prop
  | nil : Remainder []
  | comment {words : List Char} (h : '\n' ∉ words) : Remainder ('#' :: words)

/-- Lexemes one after another with a separator before each, which may be empty unless it stands
between two symbols. -/
inductive Written : List Lexeme → List Char → Prop
  | nil : Written [] []
  | concat {xs : List Lexeme} {x : Lexeme} {front gap word : List Char} (before : Written xs front)
      (separator : Separator gap)
      (apart : ∀ name name', xs.getLast? = some (.symbol name) → x = .symbol name' → gap ≠ [])
      (last : x.WrittenAs word) : Written (xs ++ [x]) (front ++ gap ++ word)

/-- Lexemes with separators before, between and behind them. -/
def Spaced (xs : List Lexeme) (cs : List Char) : Prop :=
  ∃ front gap, cs = front ++ gap ∧ Written xs front ∧ Separator gap

/-- A whole text that writes these lexemes. -/
def Layout (xs : List Lexeme) (cs : List Char) : Prop :=
  ∃ front rest, cs = front ++ rest ∧ Spaced xs front ∧ Remainder rest

variable {xs : List Lexeme} {x : Lexeme} {front gap word rest cs : List Char} {line : Nat}

theorem Separator.head? (h : Separator gap) : ∀ c ∈ gap.head?, isSymbolChar c = false := by
  cases h with
  | nil => simp
  | @blank c cs hblank rest => simpa using Lexeme.isSymbolChar_of_isWhiteSpace hblank
  | comment hwords rest => simpa using Lexeme.isSymbolChar_of_mark (by simp)

theorem Remainder.head? (h : Remainder rest) : ∀ c ∈ rest.head?, isSymbolChar c = false := by
  cases h with
  | nil => simp
  | comment hwords => simpa using Lexeme.isSymbolChar_of_mark (by simp)

/-- Only symbols begin with symbol characters. -/
theorem Lexeme.WrittenAs.head? (h : x.WrittenAs word) (hx : ∀ name, x ≠ .symbol name) :
    ∀ c ∈ word.head?, isSymbolChar c = false := by
  intro c hc
  apply isSymbolChar_of_mark
  cases h with
  | symbol hname => exact absurd rfl (hx _)
  | literal hquote inside =>
    obtain rfl := Option.mem_some_iff.mp hc
    rcases hquote with rfl | rfl <;> simp
  | becomes | bar | semicolon =>
    obtain rfl := Option.mem_some_iff.mp hc
    simp

/-- Two symbols without a separator run into each other. -/
theorem Lexeme.not_endsBefore_symbol {name name' : String}
    (h : (Lexeme.symbol name').WrittenAs word) : ¬ (Lexeme.symbol name).EndsBefore (word ++ rest) := by
  intro hend
  obtain ⟨c, hc⟩ : ∃ c, c ∈ word.head? := by
    simpa [← Option.isSome_iff_exists] using h.ne_nil
  have hother := hend name rfl c (List.mem_head?_append_of_mem_head? hc)
  cases h with
  | symbol hname =>
    rw [hname.2 c (List.mem_of_mem_head? hc)] at hother
    cases hother

/-- A separator keeps lexemes apart unless it is empty. -/
theorem Separator.endsBefore (h : Separator gap) (hrest : gap = [] → x.EndsBefore rest) :
    x.EndsBefore (gap ++ rest) := by
  rcases gap with _ | ⟨c, gap⟩
  · exact hrest rfl
  · exact fun _ _ => h.head?

theorem Remainder.endsBefore (h : Remainder rest) : x.EndsBefore rest :=
  fun _ _ => h.head?

/-! ## From a layout to its lexemes -/

namespace Lexeme

theorem scanFrom_separator (h : Separator gap) :
    scanFrom line (gap ++ rest) = scanFrom (line + gap.count '\n') rest := by
  induction h generalizing line with
  | nil => rfl
  | @blank c cs hblank _ ih =>
    have hpiece : Piece [c] (cs ++ rest) none := .blank hblank
    rw [← List.singleton_append, List.append_assoc, hpiece.taken.scanFrom_eq, lead, ih,
      Nat.add_assoc, ← List.count_append]
  | @comment words cs hwords _ ih =>
    have hpiece : Piece ('#' :: words ++ ['\n']) (cs ++ rest) none := .comment hwords
    rw [List.append_assoc _ cs, hpiece.taken.scanFrom_eq, lead, ih, Nat.add_assoc,
      ← List.count_append]

theorem scanFrom_remainder (h : Remainder rest) : scanFrom line rest = .stop none := by
  cases h with
  | nil => rw [scanFrom]
  | @comment words hwords =>
    have hpiece : Piece ('#' :: words) [] none := .lastComment hwords
    rw [← List.append_nil ('#' :: words), hpiece.taken.scanFrom_eq, lead, scanFrom]

end Lexeme

/-- What writes lexemes is scanned as these lexemes, if the last one does not run into the rest. -/
theorem Written.scanFrom_eq (h : Written xs front) (hend : ∀ x ∈ xs.getLast?, x.EndsBefore rest) :
    ∃ items : List Located, items.map (·.lexeme) = xs ∧
      Lexeme.scanFrom line (front ++ rest) =
        items.foldr .cons (Lexeme.scanFrom (line + front.count '\n') rest) := by
  induction h generalizing rest with
  | nil => exact ⟨[], rfl, rfl⟩
  | @concat xs x front gap word _ hgap apart hword ih =>
    have hbefore : ∀ y ∈ xs.getLast?, y.EndsBefore (gap ++ (word ++ rest)) := by
      refine fun y hy => hgap.endsBefore fun hempty name hname c hc => ?_
      -- behind a symbol an empty separator is followed by something else
      have hother : ∀ name', x ≠ .symbol name' := fun name' hx =>
        apart name name' (hname ▸ hy) hx hempty
      obtain ⟨d, tail, rfl⟩ := List.exists_cons_of_ne_nil hword.ne_nil
      exact hword.head? hother c hc
    obtain ⟨items, rfl, hscan⟩ := ih hbefore
    have hlast : x.EndsBefore rest := hend x (by simp)
    refine ⟨items ++ [⟨line + front.count '\n' + gap.count '\n', x⟩], by simp, ?_⟩
    rw [List.append_assoc, List.append_assoc, hscan, Lexeme.scanFrom_separator hgap,
      Lexeme.scanFrom_written hword hlast, List.count_append, List.count_append, ← Nat.add_assoc,
      ← Nat.add_assoc, List.foldr_append]
    rfl

theorem scanFrom_of_layout (h : Layout xs cs) (line : Nat) :
    ∃ items : List Located, items.map (·.lexeme) = xs ∧
      Lexeme.scanFrom line cs = ⟨items, none⟩ := by
  obtain ⟨_, rest, rfl, ⟨front, gap, rfl, hfront, hgap⟩, hrest⟩ := h
  have hend : ∀ x ∈ xs.getLast?, x.EndsBefore (gap ++ rest) :=
    fun x _ => hgap.endsBefore fun _ => hrest.endsBefore
  obtain ⟨items, hitems, hscan⟩ := hfront.scanFrom_eq hend
  refine ⟨items, hitems, ?_⟩
  rw [List.append_assoc, hscan, Lexeme.scanFrom_separator hgap, Lexeme.scanFrom_remainder hrest,
    Reading.foldr_cons]
  simp

/-! ## From a text to its layout -/

/-- What the scanner does where no separator stands. -/
inductive Meets (line : Nat) : List Char → Reading Located → Prop
  | ending {rest : List Char} (h : Remainder rest) : Meets line rest (.stop none)
  | stray {c : Char} {rest : List Char} (h : Lexeme.Stray c rest) :
      Meets line (c :: rest) (.stop (some (.unexpectedChar line c)))
  | unclosed {quote : Char} {rest : List Char} (hquote : quote = '"' ∨ quote = '\'')
      (h : Lexeme.closeLiteral quote rest = none) :
      Meets line (quote :: rest) (.stop (some (.unclosedLiteral line)))
  | lexeme {x : Lexeme} {word rest : List Char} (h : x.WrittenAs word)
        (ends : x.EndsBefore rest) :
      Meets line (word ++ rest)
        ((Lexeme.scanFrom (line + word.count '\n') rest).cons ⟨line, x⟩)

/-- Every text begins with a separator, which may be empty. -/
theorem exists_separator (line : Nat) (cs : List Char) :
    ∃ gap rest, cs = gap ++ rest ∧ Separator gap ∧
      Meets (line + gap.count '\n') rest (Lexeme.scanFrom line cs) := by
  induction cs using Lexeme.scan_induction generalizing line with
  | nil =>
    refine ⟨[], [], rfl, .nil, ?_⟩
    rw [Lexeme.scanFrom]
    exact .ending .nil
  | stray c rest hstray =>
    refine ⟨[], _, rfl, .nil, ?_⟩
    rw [hstray.scanFrom_eq]
    exact .stray hstray
  | unclosed quote rest hquote hclose =>
    refine ⟨[], _, rfl, .nil, ?_⟩
    rw [Lexeme.scanFrom_unclosed hquote hclose]
    exact .unclosed hquote hclose
  | piece word rest found hpiece ih =>
    have hscan := hpiece.taken.scanFrom_eq line
    cases hpiece with
    | @blank c rest hblank =>
      obtain ⟨gap, tail, rfl, hgap, hmeets⟩ := ih (line + [c].count '\n')
      refine ⟨c :: gap, tail, rfl, .blank hblank hgap, ?_⟩
      rw [hscan, Lexeme.lead]
      rwa [Nat.add_assoc, ← List.count_append] at hmeets
    | @comment words rest hwords =>
      obtain ⟨gap, tail, rfl, hgap, hmeets⟩ := ih (line + ('#' :: words ++ ['\n']).count '\n')
      refine ⟨'#' :: words ++ ['\n'] ++ gap, tail, by simp, .comment hwords hgap, ?_⟩
      rw [hscan, Lexeme.lead]
      rwa [Nat.add_assoc, ← List.count_append] at hmeets
    | @lastComment words hwords =>
      refine ⟨[], '#' :: words, by simp, .nil, ?_⟩
      rw [hscan, Lexeme.lead, Lexeme.scanFrom]
      exact .ending (.comment hwords)
    | lexeme hword hend =>
      refine ⟨[], _, rfl, .nil, ?_⟩
      rw [hscan]
      exact .lexeme hword hend

theorem Meets.cons_inv {after : List Located} {fault : Option GrammarError} {x : Located}
    (h : Meets line cs ⟨x :: after, fault⟩) :
    ∃ word rest, cs = word ++ rest ∧ x.line = line ∧ x.lexeme.WrittenAs word ∧
      x.lexeme.EndsBefore rest ∧
      Lexeme.scanFrom (line + word.count '\n') rest = ⟨after, fault⟩ := by
  generalize hr : (⟨x :: after, fault⟩ : Reading Located) = r at h
  cases h with
  | lexeme hword hend =>
    obtain ⟨hitems, hfault⟩ := Reading.mk.inj hr
    obtain ⟨rfl, hafter⟩ := List.cons.inj hitems
    refine ⟨_, _, rfl, rfl, hword, hend, ?_⟩
    rw [hafter, hfault]
  | _ => cases congrArg Reading.items hr

theorem Meets.nil_inv (h : Meets line cs ⟨[], none⟩) : Remainder cs := by
  generalize hr : (⟨[], none⟩ : Reading Located) = r at h
  cases h with
  | ending hrest => exact hrest
  | lexeme => cases congrArg Reading.items hr
  | _ => cases congrArg Reading.fault hr

/-- A text cut between two lexemes: `front` is written before the cut, then comes a separator, and
the scanner goes on with `rest`. -/
structure Cut (line : Nat) (front gap rest : List Char) (before : List Located)
    (after : Reading Located) : Prop where
  written : Written (before.map (·.lexeme)) front
  separator : Separator gap
  ends : ∀ x ∈ before.getLast?, x.lexeme.EndsBefore (gap ++ rest)
  endLine : Rule.endLine line before = line + front.count '\n'
  meets : Meets (line + (front ++ gap).count '\n') rest after

/-- A text can be cut wherever its lexemes can be cut. -/
theorem exists_cut {before after : List Located} {fault : Option GrammarError}
    (h : Lexeme.scanFrom line cs = ⟨before ++ after, fault⟩) :
    ∃ front gap rest, cs = front ++ gap ++ rest ∧
      Cut line front gap rest before ⟨after, fault⟩ := by
  induction before using List.reverseRecOn generalizing after with
  | nil =>
    obtain ⟨gap, rest, rfl, hgap, hmeets⟩ := exists_separator line cs
    rw [h] at hmeets
    exact ⟨[], gap, rest, rfl, .nil, hgap, by simp, rfl, hmeets⟩
  | append_singleton before x ih =>
    rw [List.append_assoc, List.singleton_append] at h
    obtain ⟨front, gap, _, rfl, hcut⟩ := ih h
    obtain ⟨word, rest, rfl, hline, hword, hend, hscan⟩ := hcut.meets.cons_inv
    obtain ⟨gap', rest', rfl, hgap', hmeets⟩ :=
      exists_separator (line + (front ++ gap).count '\n' + word.count '\n') rest
    have hcount : line + (front ++ gap).count '\n' + word.count '\n' =
        line + (front ++ gap ++ word).count '\n' := by
      rw [Nat.add_assoc, ← List.count_append]
    rw [hscan, hcount, Nat.add_assoc, ← List.count_append] at hmeets
    refine ⟨front ++ gap ++ word, gap', rest', by simp, ?_, hgap', by simpa using hend, ?_, hmeets⟩
    · rw [List.map_append, List.map_singleton]
      refine hcut.written.concat hcut.separator ?_ hword
      intro name name' hname hx hempty
      rw [List.getLast?_map, Option.map_eq_some_iff] at hname
      obtain ⟨y, hy, hname⟩ := hname
      have hends := hcut.ends y hy
      rw [hempty, hname] at hends
      rw [hx] at hword
      exact Lexeme.not_endsBefore_symbol hword hends
    · rw [Rule.endLine_append, ← hcount, ← hline]
      exact hword.lastLine_eq x.line

/-- A text is scanned without a fault as the lexemes of which it is a layout. -/
theorem scan_eq_iff_layout {text : String} :
    ((Lexeme.scan text).fault = none ∧ (Lexeme.scan text).items.map (·.lexeme) = xs) ↔
      Layout xs text.toList := by
  constructor
  · intro h
    obtain ⟨hfault, rfl⟩ := h
    have hscan : Lexeme.scanFrom 1 text.toList = ⟨(Lexeme.scan text).items ++ [], none⟩ := by
      rw [List.append_nil, ← hfault]
      rfl
    obtain ⟨front, gap, rest, htext, hcut⟩ := exists_cut hscan
    exact ⟨front ++ gap, rest, htext, ⟨front, gap, rfl, hcut.written, hcut.separator⟩,
      hcut.meets.nil_inv⟩
  · intro h
    obtain ⟨items, rfl, hscan⟩ := scanFrom_of_layout h 1
    rw [Lexeme.scan, hscan]
    exact ⟨rfl, rfl⟩

end ChomskyChart
