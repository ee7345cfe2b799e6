import ChomskyChart.Grammar.Basic
import ChomskyChart.Grammar.Error

/-!
# Building a grammar production by production

A builder stores well-formed productions and refuses a repeated rule. `tryPush` answers at
once and records nothing when it fails; `push` records the first error instead, and then
stores nothing more. A recorded error is what `grammar` gives in the end.
-/
namespace ChomskyChart

namespace Production

/-- What makes a production unfit for any grammar. -/
def defect? (p : Production) : Option GrammarError :=
  if p.key = "" then some .emptyKey
  else
    match p.body with
    | .terminal _ => none
    | .nonterminal left right =>
      if left = "" ∨ right = "" then some (.emptySymbol p.key) else none

end Production

structure Builder where
  productions : List Production := []
  recorded : Option GrammarError := none

namespace Builder

/-- Store a production, unless it is malformed or the same rule as a stored one. -/
def tryPush (b : Builder) (p : Production) : Except GrammarError Builder :=
  match p.defect? with
  | some e => .error e
  | none =>
    if ∃ q ∈ b.productions, q.SameRule p then .error (.duplicate p)
    else .ok { b with productions := b.productions ++ [p] }

/-- Store a production or record why not, if no error is recorded yet. -/
def push (b : Builder) (p : Production) : Builder :=
  match b.recorded with
  | some _ => b
  | none =>
    match b.tryPush p with
    | .ok b => b
    | .error e => { b with recorded := some e }

/-- The stored productions, or the recorded error. -/
def grammar (b : Builder) : Except GrammarError Grammar :=
  match b.recorded with
  | some e => .error e
  | none => .ok (.ofList b.productions)

/-- One use of a builder. -/
inductive Step
  | tryPush (p : Production)
  | push (p : Production)

/-- The builder after a step: an attempt that fails leaves it as it was. -/
def apply (b : Builder) : Step → Builder
  | .tryPush p => (b.tryPush p).toOption.getD b
  | .push p => b.push p

/-- What a step answers: the outcome of an attempt, nothing for a chained call. -/
def answer? (b : Builder) : Step → Option (Except GrammarError Unit)
  | .tryPush p => some ((b.tryPush p).map fun _ => ())
  | .push _ => none

def run (steps : List Step) : Builder := steps.foldl apply {}

end Builder

/-- A grammar of these productions in their order, if no builder refuses one. -/
def Grammar.build (productions : List Production) : Except GrammarError Grammar :=
  (productions.foldl Builder.push {}).grammar

end ChomskyChart
