import ChomskyChart.Grammar.Lexeme
import ChomskyChart.Grammar.Production

/-!
# What can be wrong with a grammar

Causes of refusal, from a single production up to a whole text. Those that arise while a
text is read carry a line; the wording of all of them is `GrammarError.message`.
-/
namespace ChomskyChart

/-- What a grammar text should have gone on with. -/
inductive Expected
  | ruleName
  | becomes
  | semicolon
  | alternative
deriving DecidableEq

def Expected.text : Expected → String
  | ruleName => "rule name"
  | becomes => "':='"
  | semicolon => "';'"
  | alternative => "symbol, literal or ';'"

inductive GrammarError
  | emptyKey
  | emptySymbol (key : String)
  | duplicate (production : Production)
  | unexpectedChar (line : Nat) (found : Char)
  | unclosedLiteral (line : Nat)
  | unexpectedLexeme (line : Nat) (found : Lexeme) (expected : Expected)
  | unexpectedEnd (line : Nat) (expected : Expected)
  | notChomskyNormal (line : Nat) (key : String) (alternative : List Lexeme)
  | invalid (line : Nat) (cause : GrammarError)
deriving DecidableEq

/-- The lexemes of an alternative with a blank between two of them. -/
def alternativeText (alternative : List Lexeme) : String :=
  " ".intercalate (alternative.map Lexeme.text)

/-- How a message that points at a line begins. -/
def lineMark (line : Nat) : String :=
  "line " ++ toString line ++ ": "

def GrammarError.message : GrammarError → String
  | emptyKey => "production key is empty"
  | emptySymbol key => "'" ++ key ++ "' has an empty component symbol"
  | duplicate production => "duplicate production: " ++ production.text
  | unexpectedChar line found => lineMark line ++ "unexpected character " ++ Text.quotedChar found
  | unclosedLiteral line => lineMark line ++ "unfinished literal, missing close quote"
  | unexpectedLexeme line found expected =>
    lineMark line ++ "unexpected " ++ found.text ++ ", expected " ++ expected.text
  | unexpectedEnd line expected =>
    lineMark line ++ "unexpected end of input, expected " ++ expected.text
  | notChomskyNormal line key alternative =>
    lineMark line ++ "alternative '" ++ alternativeText alternative ++ "' of '" ++ key ++
      "' is not in Chomsky Normal Form"
  | invalid line cause => lineMark line ++ cause.message

end ChomskyChart
