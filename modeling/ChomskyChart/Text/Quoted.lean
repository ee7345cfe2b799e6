import ChomskyChart.Unicode.GraphemeExtend
import ChomskyChart.Unicode.Printable

/-!
# Quoted text

A text between quotes in which every character can be seen and none can be taken for
the end: blanks other than the plain one, controls and lone marks are spelled out.
-/
namespace ChomskyChart.Text

open Unicode (isBoundMark isPrintable)

/-- A backslash, `u` and the code point in lower-case hexadecimal between braces. -/
def codePointEscape (c : Char) : List Char :=
  '\\' :: 'u' :: '\x7b' :: Nat.toDigits 16 c.toNat ++ ['\x7d']

/-- How a character is written between two quotes `quote`. The other quote stands for itself. -/
def escape (quote c : Char) : List Char :=
  if c = '\x00' then ['\\', '0']
  else if c = '\t' then ['\\', 't']
  else if c = '\r' then ['\\', 'r']
  else if c = '\n' then ['\\', 'n']
  else if c = '\\' ∨ c = quote then ['\\', c]
  else if isPrintable c && !isBoundMark c then [c]
  else codePointEscape c

def between (quote : Char) (cs : List Char) : List Char :=
  quote :: cs.flatMap (escape quote) ++ [quote]

/-- A text in double quotes. -/
def quoted (text : String) : String :=
  String.ofList (between '"' text.toList)

/-- One character in single quotes. -/
def quotedChar (c : Char) : String :=
  String.ofList (between '\'' [c])

end ChomskyChart.Text
