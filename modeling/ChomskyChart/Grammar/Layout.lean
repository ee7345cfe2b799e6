import ChomskyChart.Grammar.Reading
import ChomskyChart.Unicode.Alphanumeric
import ChomskyChart.Unicode.WhiteSpace

/-!
# From characters to lexemes

Lexemes stand in a text with white space and comments between them; a comment reaches from
`#` to the end of its line. A literal stands between two equal quotes, and a backslash in it
escapes that quote and itself only, so before anything else it is a character of the literal.
-/
namespace ChomskyChart

namespace Lexeme

open Unicode (isAlphanumeric isWhiteSpace)

/-- The characters of symbols: letters, digits and a few marks. -/
def isSymbolChar (c : Char) : Bool :=
  isAlphanumeric c || ['_', '-', '<', '>', '.', '$', '@'].contains c

/-- The content of a literal up to the quote that closes it, and what follows that quote. -/
def closeLiteral (quote : Char) : List Char → Option (List Char × List Char)
  | [] => none
  | c :: rest =>
    if c = '\\' then
      match rest with
      | [] => none
      | d :: rest =>
        (closeLiteral quote rest).map fun (content, after) =>
          (if d = quote ∨ d = '\\' then d :: content else '\\' :: d :: content, after)
    else if c = quote then some ([], rest)
    else (closeLiteral quote rest).map fun (content, after) => (c :: content, after)

theorem closeLiteral_shorter {quote : Char} {cs content after : List Char}
    (h : closeLiteral quote cs = some (content, after)) : after.length < cs.length := by
  fun_induction closeLiteral quote cs generalizing content after with
  | case1 => simp at h
  | case2 => simp at h
  | case3 d rest ih =>
    obtain ⟨⟨content', after'⟩, hc, he⟩ := Option.map_eq_some_iff.mp h
    cases he
    have := ih hc
    simp only [List.length_cons]
    omega
  | case4 => cases h; simp
  | case5 c rest _ _ ih =>
    obtain ⟨⟨content', after'⟩, hc, he⟩ := Option.map_eq_some_iff.mp h
    cases he
    have := ih hc
    simp only [List.length_cons]
    omega

/-- The lexemes of a text whose first character stands on the given line. -/
def scanFrom (line : Nat) : List Char → Reading Located
  | [] => .stop none
  | c :: rest =>
    if c = '\n' then scanFrom (line + 1) rest
    else if isWhiteSpace c then scanFrom line rest
    else if c = '#' then scanFrom line (rest.dropWhile (· ≠ '\n'))
    else if c = '|' then (scanFrom line rest).cons ⟨line, .bar⟩
    else if c = ';' then (scanFrom line rest).cons ⟨line, .semicolon⟩
    else if c = ':' then
      match rest with
      | '=' :: rest => (scanFrom line rest).cons ⟨line, .becomes⟩
      | _ => .stop (some (.unexpectedChar line c))
    else if c = '"' ∨ c = '\'' then
      match _h : closeLiteral c rest with
      | none => .stop (some (.unclosedLiteral line))
      | some (content, after) =>
        (scanFrom (line + content.count '\n') after).cons
          ⟨line, .literal (String.ofList content)⟩
    else if isSymbolChar c then
      (scanFrom line (rest.dropWhile isSymbolChar)).cons
        ⟨line, .symbol (String.ofList (c :: rest.takeWhile isSymbolChar))⟩
    else .stop (some (.unexpectedChar line c))
termination_by cs => cs.length
decreasing_by
  all_goals try simp only [List.length_cons]
  · omega
  · omega
  · exact Nat.lt_succ_of_le (List.dropWhile_sublist _).length_le
  · omega
  · omega
  · omega
  · exact Nat.lt_succ_of_lt (closeLiteral_shorter _h)
  · exact Nat.lt_succ_of_le (List.dropWhile_sublist _).length_le

def scan (text : String) : Reading Located :=
  scanFrom 1 text.toList

end Lexeme

end ChomskyChart
