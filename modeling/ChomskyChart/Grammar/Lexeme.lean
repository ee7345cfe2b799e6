import ChomskyChart.Text.Quoted

/-!
# Lexemes of a grammar text

The smallest pieces a grammar text is made of, each with the line on which it begins.
Only a literal can reach over several lines.
-/
namespace ChomskyChart

inductive Lexeme
  | symbol (name : String)
  | literal (content : String)
  | becomes
  | bar
  | semicolon
deriving DecidableEq

/-- How a message names a lexeme. -/
def Lexeme.text : Lexeme → String
  | symbol name => "'" ++ name ++ "'"
  | literal content => Text.quoted content
  | becomes => "':='"
  | bar => "'|'"
  | semicolon => "';'"

/-- A lexeme that begins on a line, counted from one. -/
structure Located where
  line : Nat
  lexeme : Lexeme
deriving DecidableEq

/-- The line on which the lexeme ends. -/
def Located.lastLine : Located → Nat
  | ⟨line, .literal content⟩ => line + content.toList.count '\n'
  | ⟨line, _⟩ => line

end ChomskyChart
