import ChomskyChart.Grammar.Builder
import ChomskyChart.Grammar.Layout
import ChomskyChart.Grammar.Rule

/-!
# Reading a grammar

The productions of the rules are stored one after another. A text is at fault where its
first fault lies: a rule that repeats an earlier one comes before what follows that rule.
-/
namespace ChomskyChart

/-- Store the productions of a rule; the error of one of them is put on the rule's line. -/
def Builder.addRule (b : Builder) (r : Rule) : Except GrammarError Builder :=
  (r.productions.foldlM tryPush b).mapError (.invalid r.line)

/-- The grammar of the rules before the fault, if there is none. -/
def Grammar.ofRules (rules : Reading Rule) : Except GrammarError Grammar := do
  let b ← rules.items.foldlM Builder.addRule {}
  match rules.fault with
  | some e => throw e
  | none => b.grammar

/-- The grammar that a text describes, or the first thing that is wrong with it. -/
def Grammar.ofText (text : String) : Except GrammarError Grammar :=
  ofRules (Rule.read (Lexeme.scan text))

end ChomskyChart
