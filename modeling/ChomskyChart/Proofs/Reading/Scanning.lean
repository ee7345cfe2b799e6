import ChomskyChart.Proofs.Reading.Lexemes

/-!
# Steps of the scanner

What the scanner takes at the front of a text does not depend on the line, nor on what follows the
text on a line of its own. So a text without a fault leaves nothing behind but the number of its
lines, and a text is read alike on every line. Every symbol that is read has a name of symbol
characters.
-/
namespace ChomskyChart.Lexeme

open Unicode (isWhiteSpace)

variable {c quote : Char} {content rest : List Char} {line : Nat}

/-- How a reading goes on in front of which a lexeme may have been read. -/
def lead (line : Nat) : Option Lexeme → Reading Located → Reading Located
  | none, r => r
  | some lexeme, r => r.cons ⟨line, lexeme⟩

/-- The scanner takes the characters of `word` from the front of a text, skips them or reads them
as one lexeme, and goes on with `rest`. It does so on every line, and also if something follows the
text on a line of its own. -/
structure Taken (word rest : List Char) (found : Option Lexeme) : Prop where
  ne_nil : word ≠ []
  isSymbol : ∀ name, found = some (.symbol name) → IsSymbol name
  scanFrom_append : ∀ (line : Nat) (after : List Char), (∀ c ∈ after.head?, c = '\n') →
    scanFrom line (word ++ rest ++ after) =
      lead line found (scanFrom (line + word.count '\n') (rest ++ after))

namespace Taken

variable {word : List Char} {found : Option Lexeme}

theorem scanFrom_eq (h : Taken word rest found) (line : Nat) :
    scanFrom line (word ++ rest) = lead line found (scanFrom (line + word.count '\n') rest) := by
  simpa using h.scanFrom_append line [] (by simp)

theorem length_lt (h : Taken word rest found) : rest.length < (word ++ rest).length := by
  have hpos := List.length_pos_iff.mpr h.ne_nil
  rw [List.length_append]
  omega

end Taken

/-! ## What stands at the front of a text -/

/-- A character that begins nothing, with the text behind it. -/
structure Stray (c : Char) (rest : List Char) : Prop where
  not_blank : isWhiteSpace c = false
  not_mark : c ∉ ['#', '|', ';', '"', '\'']
  not_symbolChar : isSymbolChar c = false
  not_becomes : c = ':' → rest.head? ≠ some '='

/-- What the scanner skips or reads at once: the word, the text behind it, and the lexeme if there
is one. A comment has the line feed behind it, unless it is ended by the end of the text. -/
inductive Piece : List Char → List Char → Option Lexeme → Prop
  | blank {c : Char} {rest : List Char} (h : isWhiteSpace c) : Piece [c] rest none
  | comment {words rest : List Char} (h : '\n' ∉ words) :
      Piece ('#' :: words ++ ['\n']) rest none
  | lastComment {words : List Char} (h : '\n' ∉ words) : Piece ('#' :: words) [] none
  | lexeme {x : Lexeme} {word rest : List Char} (h : x.WrittenAs word)
      (ends : x.EndsBefore rest) : Piece word rest (some x)

/-- The front of a text: its end, a fault or a piece. -/
inductive Front : List Char → Prop
  | nil : Front []
  | stray {c : Char} {rest : List Char} (h : Stray c rest) : Front (c :: rest)
  | unclosed {quote : Char} {rest : List Char} (hquote : quote = '"' ∨ quote = '\'')
      (h : closeLiteral quote rest = none) : Front (quote :: rest)
  | piece {word rest : List Char} {found : Option Lexeme} (h : Piece word rest found) :
      Front (word ++ rest)

theorem WrittenAs.ne_nil {x : Lexeme} {word : List Char} (h : x.WrittenAs word) : word ≠ [] := by
  cases h with
  | symbol hname => simpa using hname.1
  | _ => simp

theorem Stray.scanFrom_eq (h : Stray c rest) (line : Nat) :
    scanFrom line (c :: rest) = .stop (some (.unexpectedChar line c)) := by
  by_cases hcolon : c = ':'
  · subst hcolon
    exact scanFrom_colon (h.not_becomes rfl)
  · have hline : c ≠ '\n' := by
      rintro rfl
      exact absurd h.not_blank (by decide)
    have hmark := h.not_mark
    simp only [List.mem_cons, List.not_mem_nil, or_false, not_or] at hmark
    rw [scanFrom.eq_def]
    simp only [hline, h.not_blank, hmark, hcolon, h.not_symbolChar, ↓reduceIte,
      Bool.false_eq_true, or_self]

theorem scanFrom_unclosed (hquote : quote = '"' ∨ quote = '\'')
    (h : closeLiteral quote rest = none) (line : Nat) :
    scanFrom line (quote :: rest) = .stop (some (.unclosedLiteral line)) := by
  rw [scanFrom_quote hquote, h]

theorem Piece.taken {word : List Char} {found : Option Lexeme} (h : Piece word rest found) :
    Taken word rest found := by
  cases h with
  | @blank c rest hblank =>
    refine ⟨by simp, by simp, fun line after _ => ?_⟩
    by_cases hline : c = '\n'
    · subst hline
      exact scanFrom_newline
    · have hcount : [c].count '\n' = 0 := by simp [hline]
      rw [hcount]
      exact scanFrom_blank hline hblank
  | @comment words rest hwords =>
    refine ⟨by simp, by simp, fun line after _ => ?_⟩
    have hcount : ('#' :: words ++ ['\n']).count '\n' = 1 := by
      simp [List.count_eq_zero.mpr hwords]
    have hskip : ∀ c ∈ words, decide (c ≠ '\n') = true := fun c hc =>
      decide_eq_true (ne_of_mem_of_not_mem hc hwords)
    rw [hcount, List.cons_append, List.cons_append, List.cons_append, List.append_assoc,
      List.append_assoc, scanFrom_comment, List.dropWhile_append_of_pos hskip]
    exact scanFrom_newline
  | @lastComment words hwords =>
    refine ⟨by simp, by simp, fun line after hafter => ?_⟩
    have hcount : ('#' :: words).count '\n' = 0 := by
      simp [List.count_eq_zero.mpr hwords]
    have hskip : ∀ c ∈ words, decide (c ≠ '\n') = true := fun c hc =>
      decide_eq_true (ne_of_mem_of_not_mem hc hwords)
    have hstop : ∀ c ∈ after.head?, decide (c ≠ '\n') = false := by simpa using hafter
    rw [hcount, List.append_nil, List.cons_append, scanFrom_comment,
      dropWhile_append_of_head hstop, List.dropWhile_eq_nil_iff.mpr hskip]
    rfl
  | @lexeme x word rest hword hend =>
    refine ⟨hword.ne_nil, ?_, fun line after hafter => ?_⟩
    · intro name hname
      cases hname
      cases hword with
      | symbol hsymbol => exact hsymbol
    · have hmore : x.EndsBefore (rest ++ after) := by
        intro name hname c hc
        rcases rest with _ | ⟨d, rest⟩
        · rw [hafter c hc]
          exact isSymbolChar_of_mark (by simp)
        · exact hend name hname c hc
      rw [List.append_assoc, scanFrom_written hword hmore]
      rfl

/-- A comment is ended by a line feed or by the end of the text. -/
theorem front_comment (rest : List Char) : Front ('#' :: rest) := by
  have hwords : '\n' ∉ rest.takeWhile (· ≠ '\n') := fun hmem => by
    simpa using List.mem_takeWhile_imp hmem
  rw [← List.takeWhile_append_dropWhile (p := (· ≠ '\n')) (l := rest)]
  cases htail : rest.dropWhile (· ≠ '\n') with
  | nil => exact .piece (.lastComment hwords)
  | cons c tail =>
    have hc : c = '\n' := by
      have hhead := List.head?_dropWhile_not (· ≠ '\n') rest
      rw [htail] at hhead
      simpa using hhead
    have hpiece : Piece ('#' :: rest.takeWhile (· ≠ '\n') ++ ['\n']) tail none := .comment hwords
    simpa [hc] using Front.piece hpiece

theorem front (cs : List Char) : Front cs := by
  rcases cs with _ | ⟨c, rest⟩
  · exact .nil
  by_cases hblank : isWhiteSpace c = true
  · exact .piece (.blank hblank)
  by_cases hcomment : c = '#'
  · subst hcomment
    exact front_comment rest
  by_cases hbar : c = '|'
  · subst hbar
    exact .piece (.lexeme .bar nofun)
  by_cases hsemicolon : c = ';'
  · subst hsemicolon
    exact .piece (.lexeme .semicolon nofun)
  by_cases hbecomes : c = ':' ∧ rest.head? = some '='
  · obtain ⟨rfl, hhead⟩ := hbecomes
    obtain ⟨tail, rfl⟩ := List.head?_eq_some_iff.mp hhead
    exact .piece (.lexeme .becomes nofun)
  by_cases hquote : c = '"' ∨ c = '\''
  · cases hclose : closeLiteral c rest with
    | none => exact .unclosed hquote hclose
    | some closed =>
      obtain ⟨content, after⟩ := closed
      obtain ⟨word, rfl, hword⟩ := InQuotes.exists_of_closeLiteral hclose
      have hwritten : (literal (String.ofList content)).WrittenAs (c :: word ++ [c]) :=
        .literal hquote (by rwa [String.toList_ofList])
      have hpiece : Piece (c :: word ++ [c]) after (some (literal (String.ofList content))) :=
        .lexeme hwritten nofun
      simpa using Front.piece hpiece
  by_cases hsymbol : isSymbolChar c = true
  · have hwritten := WrittenAs.symbol (@isSymbol_ofList c rest hsymbol)
    have hend : ∀ d ∈ (rest.dropWhile isSymbolChar).head?, isSymbolChar d = false := by
      intro d hd
      have hhead := List.head?_dropWhile_not isSymbolChar rest
      rw [hd] at hhead
      simpa using hhead
    rw [String.toList_ofList] at hwritten
    simpa using Front.piece (.lexeme hwritten fun _ _ => hend)
  · exact .stray ⟨by simpa using hblank, by simp_all, by simpa using hsymbol, by simp_all⟩

/-- Induction along the pieces of a text. -/
@[elab_as_elim]
theorem scan_induction {motive : List Char → Prop} (nil : motive [])
    (stray : ∀ c rest, Stray c rest → motive (c :: rest))
    (unclosed : ∀ quote rest, quote = '"' ∨ quote = '\'' → closeLiteral quote rest = none →
      motive (quote :: rest))
    (piece : ∀ word rest found, Piece word rest found → motive rest → motive (word ++ rest))
    (cs : List Char) : motive cs := by
  induction hlength : cs.length using Nat.strong_induction_on generalizing cs with
  | _ n ih =>
    subst hlength
    cases front cs with
    | nil => exact nil
    | stray h => exact stray _ _ h
    | unclosed hquote h => exact unclosed _ _ hquote h
    | piece h => exact piece _ _ _ h (ih _ h.taken.length_lt _ rfl)

/-- Every symbol of a text has a name of symbol characters. -/
theorem isSymbol_of_mem_scanFrom {cs : List Char} {x : Located} {name : String}
    (hx : x ∈ (scanFrom line cs).items) (hname : x.lexeme = .symbol name) : IsSymbol name := by
  induction cs using scan_induction generalizing line with
  | nil =>
    rw [scanFrom] at hx
    cases hx
  | stray c rest hstray =>
    rw [hstray.scanFrom_eq] at hx
    cases hx
  | unclosed quote rest hquote hclose =>
    rw [scanFrom_unclosed hquote hclose] at hx
    cases hx
  | piece word rest found hpiece ih =>
    rw [hpiece.taken.scanFrom_eq] at hx
    cases found with
    | none => exact ih hx
    | some lexeme =>
      rcases List.mem_cons.mp hx with rfl | hx
      · exact hpiece.taken.isSymbol name (congrArg some hname)
      · exact ih hx

end ChomskyChart.Lexeme
