import ChomskyChart.Grammar.Production

/-!
# Derivation trees

A tree is built from productions without a check: a leaf holds the token that its production
was matched with, a branch holds the trees of the two components. Nothing else is stored, so
two trees are equal when they have the same productions and tokens in the same places.
-/
namespace ChomskyChart

inductive Tree
  | leaf (production : Production) (token : String)
  | branch (production : Production) (left right : Tree)
deriving DecidableEq

namespace Tree

def production : Tree → Production
  | leaf p _ => p
  | branch p _ _ => p

/-- The symbol at the root. -/
def key (t : Tree) : String := t.production.key

def isLeaf : Tree → Bool
  | leaf _ _ => true
  | branch _ _ _ => false

def token? : Tree → Option String
  | leaf _ token => some token
  | branch _ _ _ => none

def children? : Tree → Option (Tree × Tree)
  | leaf _ _ => none
  | branch _ left right => some (left, right)

/-- The tokens of the leaves from left to right. -/
def tokens : Tree → List String
  | leaf _ token => [token]
  | branch _ left right => left.tokens ++ right.tokens

/-- The keys of all nodes, each before those below it: a derivation read from the top. -/
def productionKeys : Tree → List String
  | leaf p _ => [p.key]
  | branch p left right => p.key :: (left.productionKeys ++ right.productionKeys)

/-- The subtrees with this key, each after those below it, so that the innermost come first. -/
def nodesWithKey (symbol : String) : Tree → List Tree
  | leaf p token => if p.key = symbol then [leaf p token] else []
  | branch p left right =>
    left.nodesWithKey symbol ++ right.nodesWithKey symbol ++
      if p.key = symbol then [branch p left right] else []

/-- Every piece of the left child followed by every piece of the right child. -/
def terminalSpans : Tree → List (List String)
  | leaf _ token => [[token]]
  | branch _ left right =>
    left.terminalSpans.flatMap fun l => right.terminalSpans.map (l ++ ·)

/-- What the subtrees with this key span. -/
def productionTerminals (t : Tree) (symbol : String) : List (List String) :=
  (t.nodesWithKey symbol).flatMap terminalSpans

end Tree

end ChomskyChart
