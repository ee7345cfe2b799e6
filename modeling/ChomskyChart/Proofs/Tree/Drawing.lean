import ChomskyChart.Proofs.Derivation.Leftmost
import ChomskyChart.Proofs.Grammar.Printing
import ChomskyChart.Proofs.Text.Words
import ChomskyChart.Proofs.Tree.Traversal
import ChomskyChart.Tree.Drawing

/-!
# Drawings

A drawing has one line for every node, with the way from the root in front of the first backquote.
The ways to all nodes are the shape of the tree. Tokens and literals stand in quotes, so only a
symbol could break a line.
-/
namespace ChomskyChart

/-- A tree without anything at its nodes. -/
inductive Shape
  | leaf
  | branch (left right : Shape)
deriving DecidableEq

/-- What a step down from the root puts in front of a line. -/
def Side.indent : Side → String
  | left => "  |"
  | right => "   "

namespace Side

@[simp]
theorem toList_indent_left : left.indent.toList = [' ', ' ', '|'] := by simp [indent]

@[simp]
theorem toList_indent_right : right.indent.toList = [' ', ' ', ' '] := by simp [indent]

theorem length_toList_indent (side : Side) : side.indent.toList.length = 3 := by
  cases side <;> simp

theorem eq_of_toList_indent_eq {side side' : Side} (h : side.indent.toList = side'.indent.toList) :
    side = side' := by
  cases side <;> cases side' <;> simp at h ⊢

end Side

namespace Tree

def shape : Tree → Shape
  | leaf _ _ => .leaf
  | branch _ left right => .branch left.shape right.shape

/-- The way from the root, as it is spelled in front of a line. -/
def indentation (way : List Side) : String := String.join (way.map Side.indent)

/-- What a drawing tells about the root. -/
def label : Tree → String
  | leaf p token => p.key ++ " ==> " ++ Text.quoted token
  | branch p _ _ => p.text

/-- The line of a node. -/
def Node.line (x : Node) : String := indentation x.way ++ "`-- " ++ x.subtree.label

/-- No symbol of a production has a line feed. -/
def Unbroken (t : Tree) : Prop := ∀ p ∈ t.productions, ∀ name ∈ p.names, '\n' ∉ name.toList

instance : DecidablePred Unbroken := fun t =>
  inferInstanceAs (Decidable (∀ p ∈ t.productions, ∀ name ∈ p.names, '\n' ∉ name.toList))

variable {t u : Tree} {x : Node} {way way' : List Side}

/-! ## Lines -/

theorem line_root (t : Tree) : (Node.root t).line = "`-- " ++ t.label := by
  simp [Node.root, Node.line, indentation]

theorem line_inLeft (x : Node) : x.inLeft.line = "  |" ++ x.line := by
  simp only [Node.line, Node.inLeft, indentation, List.map_cons, String.join_cons, Side.indent,
    String.append_assoc]

theorem line_inRight (leaves : Nat) (x : Node) : (x.inRight leaves).line = "   " ++ x.line := by
  simp only [Node.line, Node.inRight, indentation, List.map_cons, String.join_cons, Side.indent,
    String.append_assoc]

/-- A drawing below a node has the indentation of the node in front of every line. -/
theorem drawingFrom_eq (t : Tree) (indent : String) :
    t.drawingFrom indent = String.join (t.preorder.map fun x => indent ++ x.line ++ "\n") := by
  induction t generalizing indent with
  | leaf p token => simp [drawingFrom, preorder, line_root, label, String.append_assoc]
  | branch p left right ihl ihr =>
    rw [drawingFrom, ihl, ihr, preorder, List.map_cons, String.join_cons, Node.sideBySide,
      List.map_append, String.join_append, List.map_map, List.map_map]
    simp [line_root, line_inLeft, line_inRight, label, Function.comp_def, String.append_assoc]

theorem drawing_eq (t : Tree) :
    t.drawing = String.join (t.preorder.map (·.line ++ "\n")) := by
  simp [drawing, drawingFrom_eq]

theorem toList_drawing (t : Tree) :
    t.drawing.toList = (t.preorder.map (·.line.toList)).flatMap (· ++ ['\n']) := by
  rw [drawing_eq, String.toList_join, List.flatMap_map, List.flatMap_map]
  simp

/-! ## What a line is made of -/

theorem indentation_cons (side : Side) (way : List Side) :
    (indentation (side :: way)).toList = side.indent.toList ++ (indentation way).toList := by
  rw [indentation, List.map_cons, String.join_cons, String.toList_append]
  rfl

theorem length_indentation (way : List Side) : (indentation way).length = 3 * way.length := by
  induction way with
  | nil => rfl
  | cons side way ih =>
    rw [← String.length_toList] at ih ⊢
    rw [indentation_cons, List.length_append, side.length_toList_indent, ih, List.length_cons]
    omega

/-- Bars and blanks. -/
theorem notMem_indentation {c : Char} (hbar : c ≠ '|') (hblank : c ≠ ' ') (way : List Side) :
    c ∉ (indentation way).toList := by
  induction way with
  | nil => simp [indentation]
  | cons side way ih =>
    rw [indentation_cons]
    cases side <;> simp [hbar, hblank, ih]

/-- The indentation spells the way. -/
theorem indentation_injective : Function.Injective indentation := by
  intro way way' h
  induction way generalizing way' with
  | nil =>
    have hlength := congrArg String.length h
    rw [length_indentation, length_indentation] at hlength
    exact (List.eq_nil_of_length_eq_zero (by simpa using hlength.symm)).symm
  | cons side way ih =>
    cases way' with
    | nil =>
      have hlength := congrArg String.length h
      rw [length_indentation, length_indentation] at hlength
      simp at hlength
    | cons side' way' =>
      have hchars := congrArg String.toList h
      rw [indentation_cons, indentation_cons] at hchars
      have hlength := side.length_toList_indent.trans side'.length_toList_indent.symm
      obtain ⟨hside, hway⟩ := List.append_inj hchars hlength
      rw [Side.eq_of_toList_indent_eq hside, ih (String.toList_inj.mp hway)]

theorem productions_eq_map_preorder (t : Tree) :
    t.productions = (t.preorder.map Node.subtree).map production := by
  induction t with
  | leaf => rfl
  | branch p left right ihl ihr =>
    rw [productions, map_subtree_preorder_branch, List.map_cons, List.map_append, ihl, ihr]
    rfl

theorem newline_notMem_label (h : ∀ name ∈ t.production.names, '\n' ∉ name.toList) :
    '\n' ∉ t.label.toList := by
  cases t with
  | leaf p token =>
    simp [label, h _ p.key_mem_names, Text.newline_notMem_quoted]
  | branch p left right => exact Production.newline_notMem_text h

theorem Unbroken.newline_notMem_line (h : t.Unbroken) (hx : x ∈ t.preorder) :
    '\n' ∉ x.line.toList := by
  have hproduction : x.subtree.production ∈ t.productions := by
    rw [productions_eq_map_preorder]
    exact List.mem_map_of_mem (List.mem_map_of_mem hx)
  have hindentation := notMem_indentation (c := '\n') (by decide) (by decide) x.way
  simp [Node.line, hindentation, newline_notMem_label (h _ hproduction)]

/-! ## The shape -/

/-- The way is what stands in front of the first backquote. -/
theorem way_eq_of_line_eq {y : Node} (h : x.line = y.line) : x.way = y.way := by
  have hline (z : Node) : z.line.toList =
      (indentation z.way).toList ++ '\x60' :: ("-- ".toList ++ z.subtree.label.toList) := by
    simp [Node.line]
  have hchars := congrArg String.toList h
  rw [hline, hline] at hchars
  have hfree := notMem_indentation (c := '\x60') (by decide) (by decide)
  obtain ⟨hindentation, -⟩ := append_separator_inj (hfree _) (hfree _) hchars
  exact indentation_injective (String.toList_inj.mp hindentation)

/-- The ways to the nodes, in the order of their lines. -/
def ways (t : Tree) : List (List Side) := t.preorder.map Node.way

theorem ways_branch (p : Production) (left right : Tree) :
    (branch p left right).ways =
      [] :: (left.ways.map (.left :: ·) ++ right.ways.map (.right :: ·)) := by
  simp [ways, preorder, Node.sideBySide, Node.root, Node.inLeft, Node.inRight, Function.comp_def]

theorem nil_mem_ways (t : Tree) : [] ∈ t.ways := by
  cases t <;> simp [ways, preorder, Node.root]

/-- A way to a node of a child is a way of the branch, behind a step to the side of the child. -/
theorem cons_mem_ways_branch {p : Production} {left right : Tree} :
    (.left :: way ∈ (branch p left right).ways ↔ way ∈ left.ways) ∧
      (.right :: way ∈ (branch p left right).ways ↔ way ∈ right.ways) := by
  simp [ways_branch]

theorem cons_notMem_ways_leaf {p : Production} {token : String} {side : Side} :
    side :: way ∉ (leaf p token).ways := by
  simp [ways, preorder, Node.root]

/-- Trees to whose nodes the same ways lead have the same shape. -/
theorem shape_eq_of_ways (h : ∀ way, way ∈ t.ways ↔ way ∈ u.ways) : t.shape = u.shape := by
  induction t generalizing u with
  | leaf p token =>
    cases u with
    | leaf => rfl
    | branch q left' right' =>
      have hstep := (h [.left]).mpr (cons_mem_ways_branch.1.mpr left'.nil_mem_ways)
      exact absurd hstep cons_notMem_ways_leaf
  | branch p left right ihl ihr =>
    cases u with
    | leaf =>
      have hstep := (h [.left]).mp (cons_mem_ways_branch.1.mpr left.nil_mem_ways)
      exact absurd hstep cons_notMem_ways_leaf
    | branch q left' right' =>
      have hleft : ∀ way, way ∈ left.ways ↔ way ∈ left'.ways := fun way =>
        cons_mem_ways_branch.1.symm.trans ((h _).trans cons_mem_ways_branch.1)
      have hright : ∀ way, way ∈ right.ways ↔ way ∈ right'.ways := fun way =>
        cons_mem_ways_branch.2.symm.trans ((h _).trans cons_mem_ways_branch.2)
      rw [shape, shape, ihl hleft, ihr hright]

theorem mem_ways_of_lines_eq
    (h : t.preorder.map (·.line.toList) = u.preorder.map (·.line.toList)) (hway : way ∈ t.ways) :
    way ∈ u.ways := by
  obtain ⟨x, hx, rfl⟩ := List.mem_map.mp hway
  have hline : x.line.toList ∈ u.preorder.map (·.line.toList) := h ▸ List.mem_map_of_mem hx
  obtain ⟨y, hy, heq⟩ := List.mem_map.mp hline
  exact List.mem_map.mpr ⟨y, hy, way_eq_of_line_eq (String.toList_inj.mp heq)⟩

theorem Unbroken.shape_eq_of_drawing_eq (ht : t.Unbroken) (hu : u.Unbroken)
    (h : t.drawing = u.drawing) : t.shape = u.shape := by
  have hpieces := congrArg String.toList h
  rw [toList_drawing, toList_drawing] at hpieces
  have hlines : t.preorder.map (·.line.toList) = u.preorder.map (·.line.toList) := by
    refine flatMap_separator_inj ?_ ?_ hpieces
    · exact List.forall_mem_map.mpr fun x => ht.newline_notMem_line
    · exact List.forall_mem_map.mpr fun x => hu.newline_notMem_line
  exact shape_eq_of_ways fun way =>
    ⟨mem_ways_of_lines_eq hlines, mem_ways_of_lines_eq hlines.symm⟩

/-- A drawing is a sequence of lines with line feeds at their ends, one line for every node, each
node before those below it and left before right. The line begins with three characters for every
step of the way from the root, which spell the way, and then has a backquote. Trees with the same
drawing have the same shape. -/
theorem drawing_lines (ht : t.Unbroken) :
    t.drawing = String.join (t.preorder.map (·.line ++ "\n")) ∧
      ((∀ x, x ∈ t.preorder ↔ x.In t) ∧ t.preorder.Nodup) ∧
      (∀ x ∈ t.preorder, '\n' ∉ x.line.toList ∧
        (indentation x.way).length = 3 * x.way.length ∧
        (indentation x.way ++ "`-- ").toList <+: x.line.toList) ∧
      ∀ u : Tree, u.Unbroken → t.drawing = u.drawing → t.shape = u.shape := by
  refine ⟨t.drawing_eq, ⟨fun x => mem_preorder_iff, t.lists_preorder.nodup⟩, ?_, ?_⟩
  · intro x hx
    refine ⟨ht.newline_notMem_line hx, length_indentation x.way, ?_⟩
    have hline : x.line.toList =
        (indentation x.way ++ "`-- ").toList ++ x.subtree.label.toList := by
      rw [Node.line, String.toList_append]
    exact hline ▸ List.prefix_append _ _
  · intro u hu h
    exact ht.shape_eq_of_drawing_eq hu h

/-- A branch of a production with literals, over tokens with a line feed and with a backquote. -/
def quoting (p : Production) : Tree :=
  .branch (.terminal "S" ["a\nb"]) (.leaf p "a\nb") (.leaf p "`-- ")

theorem drawing_lines_quoting :
    let plainly := quoting (.terminal "A" [])
    let listing := quoting (.terminal "A" ["a\nb", "`-- "])
    let node : Node := ⟨[.right], 1, 2, .leaf (.terminal "A" []) "`-- "⟩
    plainly.Unbroken ∧ listing.Unbroken ∧ plainly.drawing = listing.drawing ∧
      node ∈ plainly.preorder ∧ '\n' ∉ node.line.toList ∧
      (indentation node.way).length = 3 * node.way.length ∧
      (indentation node.way ++ "`-- ").toList <+: node.line.toList ∧
      plainly.shape = listing.shape := by
  intro plainly listing node
  have hplainly : plainly.Unbroken := by decide
  have hlisting : listing.Unbroken := by decide
  have hdrawing : plainly.drawing = listing.drawing := rfl
  have hnode : node ∈ plainly.preorder := by decide
  obtain ⟨-, -, hlines, hshape⟩ := drawing_lines hplainly
  obtain ⟨hunbroken, hlength, hprefix⟩ := hlines node hnode
  exact ⟨hplainly, hlisting, hdrawing, hnode, hunbroken, hlength, hprefix,
    hshape listing hlisting hdrawing⟩

end Tree

end ChomskyChart
