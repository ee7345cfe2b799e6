import ChomskyChart.Grammar.Layout
import ChomskyChart.Proofs.Text.Words
import Mathlib.Data.List.TakeWhile

/-!
# Reading lexemes

The characters that begin lexemes of different kinds do not overlap, so what is written for a lexeme
is read as this lexeme, provided that a name does not run into the next character. A literal may
be written with quotes of either kind and may hold any characters. A backslash that escapes nothing
may be written as it is or escaped, so there are several ways to write a literal.
-/
namespace ChomskyChart

open Unicode (alphanumeric isAlphanumeric isWhiteSpace whiteSpace)

/-- What a text can name: one symbol character at least, and nothing else. -/
def IsSymbol (name : String) : Prop :=
  name ≠ "" ∧ ∀ c ∈ name.toList, Lexeme.isSymbolChar c

-- by `all`, since deciding `∀ c` can go through all characters
instance : DecidablePred IsSymbol := fun name =>
  decidable_of_iff (name ≠ "" ∧ name.toList.all Lexeme.isSymbolChar) (by simp [IsSymbol])

/-- The characters of a literal. A backslash stands before its quote and before a backslash,
everything else stands for itself. -/
def escaped (quote : Char) (content : List Char) : List Char :=
  content.flatMap fun c => if c = quote ∨ c = '\\' then ['\\', c] else [c]

/-- How a lexeme is spelled, a literal between two equal quotes of either kind. -/
inductive Spells : Lexeme → List Char → Prop
  | symbol (name : String) : Spells (.symbol name) name.toList
  | literal {quote : Char} (content : String) (h : quote = '"' ∨ quote = '\'') :
      Spells (.literal content) (quote :: escaped quote content.toList ++ [quote])
  | becomes : Spells .becomes [':', '=']
  | bar : Spells .bar ['|']
  | semicolon : Spells .semicolon [';']

/-- What may stand between two quotes for the content of a literal. A backslash escapes that quote
and itself; before any other character it stands for itself, and so does the character. -/
inductive InQuotes (quote : Char) : List Char → List Char → Prop
  | nil : InQuotes quote [] []
  | escape {c : Char} {content word : List Char} (h : c = quote ∨ c = '\\')
      (rest : InQuotes quote content word) : InQuotes quote (c :: content) ('\\' :: c :: word)
  | backslash {c : Char} {content word : List Char} (h : ¬ (c = quote ∨ c = '\\'))
      (rest : InQuotes quote content word) :
      InQuotes quote ('\\' :: c :: content) ('\\' :: c :: word)
  | raw {c : Char} {content word : List Char} (h : ¬ (c = quote ∨ c = '\\'))
      (rest : InQuotes quote content word) : InQuotes quote (c :: content) (c :: word)

/-- Every way to write a lexeme. -/
inductive Lexeme.WrittenAs : Lexeme → List Char → Prop
  | symbol {name : String} (h : IsSymbol name) : WrittenAs (.symbol name) name.toList
  | literal {quote : Char} {content : String} {word : List Char} (h : quote = '"' ∨ quote = '\'')
      (inside : InQuotes quote content.toList word) :
      WrittenAs (.literal content) (quote :: word ++ [quote])
  | becomes : WrittenAs .becomes [':', '=']
  | bar : WrittenAs .bar ['|']
  | semicolon : WrittenAs .semicolon [';']

/-- The lexeme does not run into what follows, as a name would into a symbol character. -/
def Lexeme.EndsBefore (x : Lexeme) (rest : List Char) : Prop :=
  ∀ name, x = .symbol name → ∀ c ∈ rest.head?, isSymbolChar c = false

namespace Lexeme

variable {c : Char}

/-! ## Kinds of characters -/

theorem isSymbolChar_of_isWhiteSpace (h : isWhiteSpace c) : isSymbolChar c = false := by
  have hblank : ∀ r ∈ whiteSpace.toList, ∀ n ∈ List.range' r.1 (r.2 + 1 - r.1),
      alphanumeric.contains n = false ∧
        n ∉ ['_', '-', '<', '>', '.', '$', '@'].map Char.toNat := by
    decide +kernel
  obtain ⟨r, hr, hfirst, hlast⟩ := (whiteSpace.contains_iff _).mp h
  obtain ⟨hletter, hmark⟩ := hblank r hr c.toNat (List.mem_range'_1.mpr ⟨hfirst, by omega⟩)
  have hc : c ∉ ['_', '-', '<', '>', '.', '$', '@'] := fun hc => hmark (List.mem_map_of_mem hc)
  simpa [isSymbolChar, isAlphanumeric, hletter] using hc

/-- The characters that begin other lexemes, comments or lines are none of symbols. -/
theorem isSymbolChar_of_mark (h : c ∈ ['\n', '#', '|', ';', ':', '"', '\'']) :
    isSymbolChar c = false := by
  have hall : ['\n', '#', '|', ';', ':', '"', '\''].all (!isSymbolChar ·) := by
    decide +kernel
  simpa using List.all_eq_true.mp hall c h

end Lexeme

theorem IsSymbol.notMem {name : String} (h : IsSymbol name) {c : Char}
    (hc : Lexeme.isSymbolChar c = false) : c ∉ name.toList := by
  intro hmem
  rw [h.2 c hmem] at hc
  cases hc

theorem IsSymbol.blank_notMem {name : String} (h : IsSymbol name) : ' ' ∉ name.toList :=
  h.notMem (Lexeme.isSymbolChar_of_isWhiteSpace (by decide))

theorem IsSymbol.newline_notMem {name : String} (h : IsSymbol name) : '\n' ∉ name.toList :=
  h.notMem (Lexeme.isSymbolChar_of_mark (by simp))

namespace Lexeme

variable {c quote : Char} {rest : List Char}

/-! ## Literals -/

theorem closeLiteral_quote (h : quote ≠ '\\') :
    closeLiteral quote (quote :: rest) = some ([], rest) := by
  rw [closeLiteral.eq_def]
  simp [h]

theorem closeLiteral_backslash :
    closeLiteral quote ('\\' :: c :: rest) =
      (closeLiteral quote rest).map fun (content, after) =>
        (if c = quote ∨ c = '\\' then c :: content else '\\' :: c :: content, after) := by
  rw [closeLiteral.eq_def]
  simp

theorem closeLiteral_raw (hquote : c ≠ quote) (hbackslash : c ≠ '\\') :
    closeLiteral quote (c :: rest) =
      (closeLiteral quote rest).map fun (content, after) => (c :: content, after) := by
  rw [closeLiteral.eq_def]
  simp [hquote, hbackslash]

end Lexeme

namespace InQuotes

open Lexeme (closeLiteral closeLiteral_quote closeLiteral_backslash closeLiteral_raw)

variable {quote : Char} {content word : List Char}

/-- A content is read up to the quote that closes it, whatever follows. -/
theorem closeLiteral_eq (hquote : quote ≠ '\\') (h : InQuotes quote content word)
    (rest : List Char) : closeLiteral quote (word ++ quote :: rest) = some (content, rest) := by
  induction h with
  | nil => exact closeLiteral_quote hquote
  | escape hc _ ih =>
    rw [List.cons_append, List.cons_append, closeLiteral_backslash, ih]
    simp [hc]
  | backslash hc _ ih =>
    rw [List.cons_append, List.cons_append, closeLiteral_backslash, ih]
    simp [hc]
  | raw hc _ ih =>
    obtain ⟨hne, hbackslash⟩ := not_or.mp hc
    rw [List.cons_append, closeLiteral_raw hne hbackslash, ih]
    rfl

/-- What is read as a content stands there for this content. -/
theorem exists_of_closeLiteral {cs after : List Char}
    (h : closeLiteral quote cs = some (content, after)) :
    ∃ word, cs = word ++ quote :: after ∧ InQuotes quote content word := by
  fun_induction closeLiteral quote cs generalizing content after with
  | case1 => cases h
  | case2 => cases h
  | case3 d rest ih =>
    obtain ⟨⟨content', after'⟩, hc, he⟩ := Option.map_eq_some_iff.mp h
    cases he
    obtain ⟨word, rfl, hword⟩ := ih hc
    by_cases hd : d = quote ∨ d = '\\'
    · exact ⟨'\\' :: d :: word, rfl, by simpa [hd] using hword.escape hd⟩
    · exact ⟨'\\' :: d :: word, rfl, by simpa [hd] using hword.backslash hd⟩
  | case4 =>
    cases h
    exact ⟨[], rfl, .nil⟩
  | case5 c rest hbackslash hraw ih =>
    obtain ⟨⟨content', after'⟩, hc, he⟩ := Option.map_eq_some_iff.mp h
    cases he
    obtain ⟨word, rfl, hword⟩ := ih hc
    exact ⟨c :: word, rfl, hword.raw (not_or.mpr ⟨hraw, hbackslash⟩)⟩

/-- A content has the lines of the characters that stand for it. -/
theorem count_newline (h : InQuotes quote content word) :
    word.count '\n' = content.count '\n' := by
  induction h with
  | nil => rfl
  | escape hc _ ih => simp [List.count_cons, ih]
  | backslash hc _ ih => simp [List.count_cons, ih]
  | raw hc _ ih => simp [List.count_cons, ih]

theorem of_escaped (quote : Char) (content : List Char) :
    InQuotes quote content (escaped quote content) := by
  induction content with
  | nil => exact .nil
  | cons c content ih =>
    rw [escaped, List.flatMap_cons, ← escaped]
    by_cases hc : c = quote ∨ c = '\\'
    · rw [if_pos hc]
      exact ih.escape hc
    · rw [if_neg hc]
      exact ih.raw hc

end InQuotes

namespace Lexeme

variable {c quote : Char} {rest : List Char} {line : Nat}

/-! ## One lexeme -/

theorem scanFrom_newline : scanFrom line ('\n' :: rest) = scanFrom (line + 1) rest := by
  rw [scanFrom.eq_def]
  simp

theorem scanFrom_blank (hline : c ≠ '\n') (hblank : isWhiteSpace c) :
    scanFrom line (c :: rest) = scanFrom line rest := by
  rw [scanFrom.eq_def]
  simp [hline, hblank]

/-- A comment reaches up to the end of its line. -/
theorem scanFrom_comment :
    scanFrom line ('#' :: rest) = scanFrom line (rest.dropWhile (· ≠ '\n')) := by
  have hblank : isWhiteSpace '#' = false := by decide
  rw [scanFrom.eq_def]
  simp [hblank]

theorem scanFrom_bar : scanFrom line ('|' :: rest) = (scanFrom line rest).cons ⟨line, .bar⟩ := by
  have hblank : isWhiteSpace '|' = false := by decide
  rw [scanFrom.eq_def]
  simp [hblank]

theorem scanFrom_semicolon :
    scanFrom line (';' :: rest) = (scanFrom line rest).cons ⟨line, .semicolon⟩ := by
  have hblank : isWhiteSpace ';' = false := by decide
  rw [scanFrom.eq_def]
  simp [hblank]

theorem scanFrom_becomes :
    scanFrom line (':' :: '=' :: rest) = (scanFrom line rest).cons ⟨line, .becomes⟩ := by
  have hblank : isWhiteSpace ':' = false := by decide
  rw [scanFrom.eq_def]
  simp [hblank]

theorem scanFrom_colon (h : rest.head? ≠ some '=') :
    scanFrom line (':' :: rest) = .stop (some (.unexpectedChar line ':')) := by
  have hblank : isWhiteSpace ':' = false := by decide
  rw [scanFrom.eq_def]
  simp only [hblank, Bool.false_eq_true, Char.reduceEq, ↓reduceIte]
  split
  · exact (h rfl).elim
  · rfl

/-- A literal is read up to the quote that closes it, and its lines are counted. -/
theorem scanFrom_quote (h : quote = '"' ∨ quote = '\'') :
    scanFrom line (quote :: rest) =
      match closeLiteral quote rest with
      | none => .stop (some (.unclosedLiteral line))
      | some (content, after) =>
        (scanFrom (line + content.count '\n') after).cons
          ⟨line, .literal (String.ofList content)⟩ := by
  have hkind : quote ≠ '\n' ∧ isWhiteSpace quote = false ∧ quote ≠ '#' ∧ quote ≠ '|' ∧
      quote ≠ ';' ∧ quote ≠ ':' := by
    rcases h with rfl | rfl <;> decide
  obtain ⟨hline, hblank, hcomment, hbar, hsemicolon, hcolon⟩ := hkind
  rw [scanFrom.eq_def]
  simp only [hline, hblank, hcomment, hbar, hsemicolon, hcolon, h, ↓reduceIte, Bool.false_eq_true]
  split
  · rename_i hclose
    rw [hclose]
  · rename_i content after hclose
    rw [hclose]

/-- A name is read up to the first character that is none of symbols. -/
theorem scanFrom_symbolChar (h : isSymbolChar c) :
    scanFrom line (c :: rest) =
      (scanFrom line (rest.dropWhile isSymbolChar)).cons
        ⟨line, .symbol (String.ofList (c :: rest.takeWhile isSymbolChar))⟩ := by
  have hblank : isWhiteSpace c = false := by
    by_contra hc
    rw [isSymbolChar_of_isWhiteSpace (by simpa using hc)] at h
    cases h
  have hmark : c ∉ ['\n', '#', '|', ';', ':', '"', '\''] := by
    intro hc
    rw [isSymbolChar_of_mark hc] at h
    cases h
  simp only [List.mem_cons, List.not_mem_nil, or_false, not_or] at hmark
  obtain ⟨hline, hcomment, hbar, hsemicolon, hcolon, hdouble, hsingle⟩ := hmark
  rw [scanFrom.eq_def]
  simp only [hline, hblank, hcomment, hbar, hsemicolon, hcolon, hdouble, hsingle, h, ↓reduceIte,
    Bool.false_eq_true, or_false]

theorem WrittenAs.lastLine_eq {x : Lexeme} {word : List Char} (h : x.WrittenAs word) (line : Nat) :
    Located.lastLine ⟨line, x⟩ = line + word.count '\n' := by
  cases h with
  | symbol hname => rw [List.count_eq_zero.mpr hname.newline_notMem]; rfl
  | @literal quote content word hquote inside =>
    have hline : quote ≠ '\n' := by rcases hquote with rfl | rfl <;> decide
    have hcount : (quote :: word ++ [quote]).count '\n' = content.toList.count '\n' := by
      rw [List.count_append, List.count_cons, inside.count_newline]
      simp [hline]
    rw [hcount]
    rfl
  | _ => rfl

/-- What is written for a lexeme is read as this lexeme, if no name runs into the next character. -/
theorem scanFrom_written {x : Lexeme} {word : List Char} (h : x.WrittenAs word)
    (hend : x.EndsBefore rest) :
    scanFrom line (word ++ rest) = (scanFrom (line + word.count '\n') rest).cons ⟨line, x⟩ := by
  rw [← h.lastLine_eq]
  cases h with
  | @symbol name hname =>
    have hhead := hend name rfl
    obtain ⟨hne, hchars⟩ := hname
    obtain ⟨c, cs, hlist⟩ : ∃ c cs, name.toList = c :: cs :=
      List.exists_cons_of_ne_nil (by simpa using hne)
    rw [hlist] at hchars ⊢
    obtain ⟨hc, hcs⟩ := List.forall_mem_cons.mp hchars
    have htake : cs.takeWhile isSymbolChar = cs := List.takeWhile_eq_self_iff.mpr hcs
    have hdrop : cs.dropWhile isSymbolChar = [] := List.dropWhile_eq_nil_iff.mpr hcs
    rw [List.cons_append, scanFrom_symbolChar hc, takeWhile_append_of_head hhead, htake,
      dropWhile_append_of_head hhead, hdrop, List.nil_append, ← hlist, String.ofList_toList]
    rfl
  | @literal quote content word hquote inside =>
    have hkind : quote ≠ '\\' := by rcases hquote with rfl | rfl <;> decide
    rw [List.append_assoc, List.cons_append, List.singleton_append, scanFrom_quote hquote,
      inside.closeLiteral_eq hkind]
    simp only [String.ofList_toList]
    rfl
  | becomes => exact scanFrom_becomes
  | bar => exact scanFrom_bar
  | semicolon => exact scanFrom_semicolon

/-- What spells a lexeme is read as this lexeme, if no name runs into the next character. -/
theorem scanFrom_spelled {lexeme : Lexeme} {word : List Char} (h : Spells lexeme word)
    (hsymbol : ∀ name, lexeme = .symbol name → IsSymbol name)
    (hrest : ∀ c ∈ rest.head?, isSymbolChar c = false) :
    scanFrom line (word ++ rest) =
      (scanFrom (line + word.count '\n') rest).cons ⟨line, lexeme⟩ := by
  have hwritten : lexeme.WrittenAs word := by
    cases h with
    | symbol name => exact .symbol (hsymbol name rfl)
    | literal content hquote => exact .literal hquote (.of_escaped _ _)
    | becomes => exact .becomes
    | bar => exact .bar
    | semicolon => exact .semicolon
  exact scanFrom_written hwritten fun _ _ => hrest

/-! ## Names -/

theorem isSymbol_ofList (h : isSymbolChar c) :
    IsSymbol (String.ofList (c :: rest.takeWhile isSymbolChar)) := by
  constructor
  · intro hempty
    have hlist := congrArg String.toList hempty
    rw [String.toList_ofList] at hlist
    cases hlist
  · intro d hd
    rw [String.toList_ofList] at hd
    rcases List.mem_cons.mp hd with rfl | hd
    · exact h
    · exact List.mem_takeWhile_imp hd

end Lexeme

end ChomskyChart
