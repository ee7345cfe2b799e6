import ChomskyChart.Tree.Basic

/-!
# Trees on paper

A tree is written in brackets on one line, or drawn with one line for every node. In a
drawing the indentation of a line spells the way from the root: a bar for a step to the
left and blanks for a step to the right.
-/
namespace ChomskyChart.Tree

/-- The bracketed form. -/
def text : Tree → String
  | leaf p token => "(" ++ p.key ++ " " ++ token ++ ")"
  | branch p left right => "(" ++ p.key ++ " " ++ left.text ++ " " ++ right.text ++ ")"

def drawingFrom (indent : String) : Tree → String
  | leaf p token => indent ++ "`-- " ++ p.key ++ " ==> " ++ Text.quoted token ++ "\n"
  | branch p left right =>
    indent ++ "`-- " ++ p.text ++ "\n" ++
      left.drawingFrom (indent ++ "  |") ++ right.drawingFrom (indent ++ "   ")

/-- The drawing of a tree: its nodes from the root, left before right. -/
def drawing (t : Tree) : String := t.drawingFrom ""

end ChomskyChart.Tree
