import ChomskyChart.Grammar.Reading

/-!
# From lexemes to rules

A rule is a name, `:=`, alternatives with bars between them, and a semicolon. An alternative
is one literal or two symbols; only a body as a whole may be empty. All literals of a rule
make one terminal production, and every pair makes a nonterminal production of its own.
-/
namespace ChomskyChart

inductive Alternative
  | literal (content : String)
  | pair (components : Pair)
deriving DecidableEq

namespace Alternative

def ofLexemes? : List Lexeme → Option Alternative
  | [.literal content] => some (literal content)
  | [.symbol left, .symbol right] => some (pair ⟨left, right⟩)
  | _ => none

def literal? : Alternative → Option String
  | literal content => some content
  | pair _ => none

def pair? : Alternative → Option Pair
  | literal _ => none
  | pair components => some components

end Alternative

/-- A rule as it is written, with the line of its name. -/
structure Rule where
  line : Nat
  key : String
  body : List Alternative
deriving DecidableEq

namespace Rule

def literals (r : Rule) : List String := r.body.filterMap Alternative.literal?

def pairs (r : Rule) : List Pair := r.body.filterMap Alternative.pair?

/-- A rule without any pair is a terminal production even if it has no literal either. -/
def productions (r : Rule) : List Production :=
  (if r.literals ≠ [] ∨ r.pairs = [] then [.terminal r.key r.literals] else []) ++
    r.pairs.map fun p => .nonterminal r.key p.left p.right

/-- How far the current rule has been read: `pending` is the alternative not yet closed. -/
inductive Stage
  | start
  | named (line : Nat) (key : String)
  | body (line : Nat) (key : String) (closed : List Alternative) (pending : List Lexeme)
deriving DecidableEq

/-- Close an alternative at a bar or a semicolon on line `here`. -/
def closeAlternative (here : Nat) (key : String) (pending : List Lexeme) :
    Except GrammarError Alternative :=
  match Alternative.ofLexemes? pending with
  | some a => .ok a
  | none => .error (.notChomskyNormal here key pending)

/-- Take one lexeme. The semicolon that ends a rule gives the rule. -/
def Stage.take : Stage → Located → Except GrammarError (Stage × Option Rule)
  | start, ⟨here, .symbol key⟩ => .ok (named here key, none)
  | start, ⟨here, found⟩ => .error (.unexpectedLexeme here found .ruleName)
  | named line key, ⟨_, .becomes⟩ => .ok (body line key [] [], none)
  | named _ _, ⟨here, found⟩ => .error (.unexpectedLexeme here found .becomes)
  | body _ _ _ _, ⟨here, .becomes⟩ => .error (.unexpectedLexeme here .becomes .alternative)
  | body line key closed pending, ⟨here, .bar⟩ =>
    (closeAlternative here key pending).map fun a => (body line key (closed ++ [a]) [], none)
  | body line key closed pending, ⟨here, .semicolon⟩ =>
    if closed = [] ∧ pending = [] then .ok (start, some ⟨line, key, []⟩)
    else
      (closeAlternative here key pending).map fun a => (start, some ⟨line, key, closed ++ [a]⟩)
  | body line key closed pending, ⟨_, lexeme⟩ =>
    .ok (body line key closed (pending ++ [lexeme]), none)

/-- What is missing when the text ends on line `here`; nothing between two rules. -/
def Stage.missing? (here : Nat) : Stage → Option GrammarError
  | start => none
  | named _ _ => some (.unexpectedEnd here .becomes)
  | body _ _ _ _ => some (.unexpectedEnd here .semicolon)

/-- The rules of a row of lexemes that ends with `fault` or, without one, with the text.
The line `here` is that of the end of the lexeme before. -/
def readFrom (fault : Option GrammarError) (here : Nat) : Stage → List Located → Reading Rule
  | stage, [] => .stop (fault <|> stage.missing? here)
  | stage, x :: rest =>
    match stage.take x with
    | .error e => .stop (some e)
    | .ok (stage, none) => readFrom fault x.lastLine stage rest
    | .ok (stage, some rule) => (readFrom fault x.lastLine stage rest).cons rule

def read (lexemes : Reading Located) : Reading Rule :=
  readFrom lexemes.fault 1 .start lexemes.items

end Rule

end ChomskyChart
