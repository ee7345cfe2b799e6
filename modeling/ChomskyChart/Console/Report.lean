import ChomskyChart.Chart.Fill
import ChomskyChart.Console.Arguments
import ChomskyChart.Tree.Drawing

/-!
# Reports

What is printed about a list of tokens: one entry for each selected parse, numbered from
zero, with the lines that the options ask for below its bracketed form.
-/
namespace ChomskyChart.Console

/-- `matching` for the targets, and `all` if there is no target. -/
def Options.byTargets {α : Type} (o : Options) (all : α) (matching : List String → α) : α :=
  if o.targets = [] then all else matching o.targets

/-- The parses with a target at their root, all of them if there is no target. -/
def selected (g : Grammar) (o : Options) (tokens : List String) : Cell :=
  o.byTargets (g.parses tokens) (g.parsesMatching tokens)

/-- The number of a parse, before what is said of it. -/
def number (i : Nat) : String := "#" ++ toString i

def keysText (t : Tree) : String := " ".intercalate t.productionKeys

/-- What the nodes with a key span, each span in brackets. -/
def spansLine (symbol : String) (t : Tree) : String :=
  let spans := (t.productionTerminals symbol).map fun span => "[" ++ " ".intercalate span ++ "]"
  "   " ++ symbol ++ ": " ++ " ".intercalate spans ++ "\n"

def entry (o : Options) (i : Nat) (t : Tree) : String :=
  number i ++ " " ++ t.text ++ "\n" ++
    (if o.keys then "   keys: " ++ keysText t ++ "\n" else "") ++
    String.join (o.spans.map fun symbol => spansLine symbol t) ++
    (if o.tree then t.drawing else "")

/-- One text for every tree of a cell, with its number. -/
def numbered (cell : Cell) (text : Nat → Tree → String) : String :=
  String.join (cell.zipIdx.map fun (t, i) => text i t)

/-- The keys of a parse with its number. -/
def keysEntry (i : Nat) (t : Tree) : String := number i ++ " " ++ keysText t ++ "\n"

/-- The spans of a symbol in a parse below its number. -/
def spansEntry (symbol : String) (i : Nat) (t : Tree) : String :=
  number i ++ "\n" ++ spansLine symbol t

/-- The report on the parses that were found. -/
def reportText (o : Options) : Cell → String
  | [] => "no parse\n"
  | found => numbered found (entry o)

def report (g : Grammar) (o : Options) (tokens : List String) : String :=
  reportText o (selected g o tokens)

end ChomskyChart.Console
