import ChomskyChart.Proofs.Tree.Occurrence
import Mathlib.Data.List.Nodup
import Mathlib.Data.Set.Function

/-!
# Traversals

No two nodes of a tree cover the same leaves, so what a node covers tells where it stands. From the
top and from the left, the nodes come by the first leaf that they cover, the wider ones first; from
the bottom they come by the last leaf, the narrower ones first. The keys of a tree are listed in
the one order, and the nodes with a key in the other one.
-/
namespace ChomskyChart.Tree

theorem length_tokens_pos (t : Tree) : 0 < t.tokens.length := by
  induction t with
  | leaf => exact Nat.zero_lt_one
  | branch _ _ _ ihl _ =>
    rw [tokens, List.length_append]
    exact Nat.add_pos_left ihl _

/-- A node of a tree: the way to it, the leaves that it covers, from number `first` up to, not
including, number `last`, and the subtree that stands there. -/
structure Node where
  way : List Side
  first : Nat
  last : Nat
  subtree : Tree
deriving DecidableEq

namespace Node

/-- The node stands in the tree. -/
def In (x : Node) (t : Tree) : Prop := t.Occurs x.way x.first x.last x.subtree

def key (x : Node) : String := x.subtree.key

/-- The leaves that a node covers. -/
def interval (x : Node) : Nat × Nat := (x.first, x.last)

/-- One node begins before the other one, or it begins with it and ends behind it. -/
def BeginsBefore (x y : Node) : Prop := x.first < y.first ∨ x.first = y.first ∧ y.last < x.last

/-- One node ends before the other one, or it ends with it and begins behind it. -/
def EndsBefore (x y : Node) : Prop := x.last < y.last ∨ x.last = y.last ∧ y.first < x.first

def root (t : Tree) : Node := ⟨[], 0, t.tokens.length, t⟩

/-- A node of a left child, seen from the branch. -/
def inLeft (x : Node) : Node := ⟨.left :: x.way, x.first, x.last, x.subtree⟩

/-- A node of a right child, seen from the branch, when so many leaves are on its left. -/
def inRight (leaves : Nat) (x : Node) : Node :=
  ⟨.right :: x.way, leaves + x.first, leaves + x.last, x.subtree⟩

/-- Nodes of the two children, seen from the branch. -/
def sideBySide (left : Tree) (onLeft onRight : List Node) : List Node :=
  onLeft.map inLeft ++ onRight.map (inRight left.tokens.length)

end Node

open Node (sideBySide)

/-- The nodes of a tree, each before those below it. -/
def preorder : Tree → List Node
  | leaf p token => [.root (leaf p token)]
  | branch p left right =>
    .root (branch p left right) :: sideBySide left left.preorder right.preorder

/-- The nodes of a tree, each after those below it. -/
def postorder : Tree → List Node
  | leaf p token => [.root (leaf p token)]
  | branch p left right =>
    sideBySide left left.postorder right.postorder ++ [.root (branch p left right)]

/-- The list of the chosen nodes of a tree in an order. -/
structure Lists (t : Tree) (chosen : Node → Prop) (before : Node → Node → Prop)
    (nodes : List Node) : Prop where
  mem_iff : ∀ x, x ∈ nodes ↔ x.In t ∧ chosen x
  nodup : nodes.Nodup
  sorted : nodes.Pairwise before

variable {t left right : Tree} {p : Production} {token symbol : String} {x y : Node}
  {onLeft onRight : List Node}

/-! ## The nodes of a branch -/

theorem in_leaf_iff : x.In (leaf p token) ↔ x = .root (leaf p token) := by
  constructor
  · intro h
    obtain ⟨way, first, last, s⟩ := x
    cases h with
    | root => rfl
  · intro h
    subst h
    exact .root _

/-- A node of a branch is its root or a node of a child. -/
theorem in_branch_iff :
    x.In (branch p left right) ↔ x = .root (branch p left right) ∨
      (∃ z : Node, z.In left ∧ z.inLeft = x) ∨
        ∃ z : Node, z.In right ∧ z.inRight left.tokens.length = x := by
  constructor
  · intro h
    obtain ⟨way, first, last, s⟩ := x
    cases h with
    | root => exact .inl rfl
    | inLeft inside => exact .inr (.inl ⟨⟨_, _, _, _⟩, inside, rfl⟩)
    | inRight inside => exact .inr (.inr ⟨⟨_, _, _, _⟩, inside, rfl⟩)
  · intro h
    rcases h with rfl | ⟨z, hz, rfl⟩ | ⟨z, hz, rfl⟩
    · exact .root _
    · exact .inLeft hz
    · exact .inRight hz

theorem mem_sideBySide :
    x ∈ sideBySide left onLeft onRight ↔
      (∃ z ∈ onLeft, z.inLeft = x) ∨ ∃ z ∈ onRight, z.inRight left.tokens.length = x := by
  rw [sideBySide, List.mem_append, List.mem_map, List.mem_map]

theorem mem_preorder_iff : x ∈ t.preorder ↔ x.In t := by
  induction t generalizing x with
  | leaf => rw [preorder, List.mem_singleton, in_leaf_iff]
  | branch p left right ihl ihr =>
    rw [preorder, in_branch_iff, List.mem_cons, mem_sideBySide]
    simp only [ihl, ihr]

theorem mem_postorder_iff : x ∈ t.postorder ↔ x.In t := by
  induction t generalizing x with
  | leaf => rw [postorder, List.mem_singleton, in_leaf_iff]
  | branch p left right ihl ihr =>
    rw [postorder, in_branch_iff, List.mem_append, List.mem_singleton, mem_sideBySide, or_comm]
    simp only [ihl, ihr]

/-- A node covers a leaf at least, and leaves of the tree only. -/
theorem Node.In.bounds (h : x.In t) : x.first < x.last ∧ x.last ≤ t.tokens.length := by
  have hwidth := Occurs.first_add_length h
  have hpos := x.subtree.length_tokens_pos
  exact ⟨by omega, Occurs.last_le_length h⟩

/-! ## The two orders -/

/-- An order by what nodes cover that stays as it is when a tree becomes a child, and in which the
nodes of a left child stand before those of the right child. -/
structure FromLeft (before : Node → Node → Prop) : Prop where
  interval_ne : ∀ {x y : Node}, before x y → x.interval ≠ y.interval
  inLeft : ∀ {x y : Node}, before x y → before x.inLeft y.inLeft
  inRight : ∀ {x y : Node} {leaves : Nat}, before x y → before (x.inRight leaves) (y.inRight leaves)
  across : ∀ {left right : Tree} {x y : Node}, x.In left → y.In right →
    before x.inLeft (y.inRight left.tokens.length)

theorem fromLeft_beginsBefore : FromLeft Node.BeginsBefore where
  interval_ne h heq := by
    obtain ⟨hfirst, hlast⟩ := Prod.mk.inj heq
    dsimp only [Node.BeginsBefore] at h
    omega
  inLeft h := h
  inRight h := by
    dsimp only [Node.BeginsBefore, Node.inRight] at h ⊢
    omega
  across hx hy := by
    have hbounds := hx.bounds
    dsimp only [Node.BeginsBefore, Node.inLeft, Node.inRight]
    omega

theorem fromLeft_endsBefore : FromLeft Node.EndsBefore where
  interval_ne h heq := by
    obtain ⟨hfirst, hlast⟩ := Prod.mk.inj heq
    dsimp only [Node.EndsBefore] at h
    omega
  inLeft h := h
  inRight h := by
    dsimp only [Node.EndsBefore, Node.inRight] at h ⊢
    omega
  across hx hy := by
    have hxbounds := hx.bounds
    have hybounds := hy.bounds
    dsimp only [Node.EndsBefore, Node.inLeft, Node.inRight]
    omega

namespace FromLeft

variable {before : Node → Node → Prop} {nodes : List Node}

theorem nodup_map_interval (h : FromLeft before) (hsorted : nodes.Pairwise before) :
    (nodes.map Node.interval).Nodup :=
  List.pairwise_map.mpr (hsorted.imp h.interval_ne)

theorem pairwise_sideBySide (h : FromLeft before) (hleft : ∀ x ∈ onLeft, x.In left)
    (hright : ∀ y ∈ onRight, y.In right) (hl : onLeft.Pairwise before)
    (hr : onRight.Pairwise before) : (sideBySide left onLeft onRight).Pairwise before := by
  refine List.pairwise_append.mpr ⟨List.pairwise_map.mpr (hl.imp h.inLeft),
    List.pairwise_map.mpr (hr.imp h.inRight), ?_⟩
  intro x hx y hy
  obtain ⟨z, hz, rfl⟩ := List.mem_map.mp hx
  obtain ⟨w, hw, rfl⟩ := List.mem_map.mp hy
  exact h.across (hleft z hz) (hright w hw)

/-- A sorted list of nodes is the list of the nodes that it has. -/
theorem lists {chosen : Node → Prop} (h : FromLeft before) (hsorted : nodes.Pairwise before)
    (hmem : ∀ x, x ∈ nodes ↔ x.In t ∧ chosen x) : t.Lists chosen before nodes where
  mem_iff := hmem
  nodup := (h.nodup_map_interval hsorted).of_map _
  sorted := hsorted

end FromLeft

/-- The root covers all leaves, and a node of a child does not, so the root stands before it in
the one order and behind it in the other one. -/
theorem root_before (hleft : ∀ x ∈ onLeft, x.In left) (hright : ∀ y ∈ onRight, y.In right)
    (hx : x ∈ sideBySide left onLeft onRight) :
    (Node.root (branch p left right)).BeginsBefore x ∧
      x.EndsBefore (.root (branch p left right)) := by
  have hlpos := left.length_tokens_pos
  have hrpos := right.length_tokens_pos
  dsimp only [Node.BeginsBefore, Node.EndsBefore, Node.root]
  rw [tokens, List.length_append]
  rcases mem_sideBySide.mp hx with ⟨z, hz, rfl⟩ | ⟨z, hz, rfl⟩
  · have hbounds := (hleft z hz).bounds
    dsimp only [Node.inLeft]
    omega
  · have hbounds := (hright z hz).bounds
    dsimp only [Node.inRight]
    omega

theorem pairwise_preorder (t : Tree) : t.preorder.Pairwise Node.BeginsBefore := by
  induction t with
  | leaf => exact List.pairwise_singleton _ _
  | branch p left right ihl ihr =>
    have hleft : ∀ x ∈ left.preorder, x.In left := fun x => mem_preorder_iff.mp
    have hright : ∀ x ∈ right.preorder, x.In right := fun x => mem_preorder_iff.mp
    exact List.pairwise_cons.mpr ⟨fun x hx => (root_before hleft hright hx).1,
      fromLeft_beginsBefore.pairwise_sideBySide hleft hright ihl ihr⟩

theorem pairwise_postorder (t : Tree) : t.postorder.Pairwise Node.EndsBefore := by
  induction t with
  | leaf => exact List.pairwise_singleton _ _
  | branch p left right ihl ihr =>
    have hleft : ∀ x ∈ left.postorder, x.In left := fun x => mem_postorder_iff.mp
    have hright : ∀ x ∈ right.postorder, x.In right := fun x => mem_postorder_iff.mp
    refine List.pairwise_append.mpr
      ⟨fromLeft_endsBefore.pairwise_sideBySide hleft hright ihl ihr,
        List.pairwise_singleton _ _, ?_⟩
    intro x hx y hy
    obtain rfl := List.mem_singleton.mp hy
    exact (root_before hleft hright hx).2

/-- No two nodes cover the same leaves. -/
theorem injOn_interval (t : Tree) : Set.InjOn Node.interval {x | x.In t} := by
  have hnodup := fromLeft_beginsBefore.nodup_map_interval t.pairwise_preorder
  intro x hx y hy heq
  exact List.inj_on_of_nodup_map hnodup (mem_preorder_iff.mpr hx) (mem_preorder_iff.mpr hy) heq

theorem lists_preorder (t : Tree) : t.Lists (fun _ => True) Node.BeginsBefore t.preorder := by
  refine fromLeft_beginsBefore.lists t.pairwise_preorder fun x => ?_
  rw [mem_preorder_iff, and_true]

theorem lists_filter_postorder (t : Tree) (symbol : String) :
    t.Lists (·.key = symbol) Node.EndsBefore (t.postorder.filter (·.key = symbol)) := by
  refine fromLeft_endsBefore.lists (t.pairwise_postorder.filter _) fun x => ?_
  rw [List.mem_filter, mem_postorder_iff, decide_eq_true_iff]

/-! ## What is listed along the nodes -/

theorem map_subtree_sideBySide :
    (sideBySide left onLeft onRight).map Node.subtree =
      onLeft.map Node.subtree ++ onRight.map Node.subtree := by
  rw [sideBySide, List.map_append, List.map_map, List.map_map]
  rfl

theorem map_subtree_preorder_branch :
    (branch p left right).preorder.map Node.subtree =
      branch p left right ::
        (left.preorder.map Node.subtree ++ right.preorder.map Node.subtree) := by
  rw [preorder, List.map_cons, map_subtree_sideBySide]
  rfl

theorem productionKeys_eq_map_preorder (t : Tree) :
    t.productionKeys = (t.preorder.map Node.subtree).map key := by
  induction t with
  | leaf => rfl
  | branch p left right ihl ihr =>
    rw [productionKeys, map_subtree_preorder_branch, List.map_cons, List.map_append, ihl, ihr]
    rfl

theorem nodesWithKey_eq_filter_postorder (t : Tree) (symbol : String) :
    t.nodesWithKey symbol = (t.postorder.map Node.subtree).filter (·.key = symbol) := by
  have hroot (s : Tree) : [(Node.root s).subtree].filter (·.key = symbol) =
      if s.key = symbol then [s] else [] := by
    simp [Node.root, List.filter_cons]
  induction t with
  | leaf p token =>
    rw [nodesWithKey, postorder, List.map_singleton, hroot]
    rfl
  | branch p left right ihl ihr =>
    rw [nodesWithKey, postorder, List.map_append, map_subtree_sideBySide, List.filter_append,
      List.filter_append, List.map_singleton, hroot, ihl, ihr]
    rfl

theorem length_productionKeys (t : Tree) :
    t.productionKeys.length + 1 = 2 * t.tokens.length := by
  induction t with
  | leaf => rfl
  | branch p left right ihl ihr =>
    rw [productionKeys, tokens, List.length_cons, List.length_append, List.length_append]
    omega

theorem head?_productionKeys (t : Tree) : t.productionKeys.head? = some t.key := by
  cases t <;> rfl

theorem count_productionKeys (t : Tree) (symbol : String) :
    t.productionKeys.count symbol = (t.nodesWithKey symbol).length := by
  induction t with
  | leaf p token => by_cases hkey : p.key = symbol <;> simp [productionKeys, nodesWithKey, hkey]
  | branch p left right ihl ihr =>
    rw [productionKeys, nodesWithKey, List.count_cons, List.count_append, List.length_append,
      List.length_append, ihl, ihr]
    by_cases hkey : p.key = symbol <;> simp [hkey]

/-- No two nodes of a tree cover the same leaves. The keys are those of all nodes, each node once,
by the first leaf and from the widest node to the narrowest. The nodes with a key come by the last
leaf and from the narrowest to the widest. So there is one key less than twice the number of
tokens, the first key is that of the root, and a key is listed once for every node that has it. -/
theorem traversals_sorted (t : Tree) :
    Set.InjOn Node.interval {x | x.In t} ∧
      (∃ nodes, t.Lists (fun _ => True) Node.BeginsBefore nodes ∧
        t.productionKeys = nodes.map Node.key) ∧
      (∀ symbol, ∃ nodes, t.Lists (·.key = symbol) Node.EndsBefore nodes ∧
        t.nodesWithKey symbol = nodes.map Node.subtree) ∧
      t.productionKeys.length = 2 * t.tokens.length - 1 ∧
      t.productionKeys.head? = some t.key ∧
      ∀ symbol, t.productionKeys.count symbol = (t.nodesWithKey symbol).length := by
  refine ⟨t.injOn_interval, ⟨_, t.lists_preorder, ?_⟩, ?_, ?_, t.head?_productionKeys,
    t.count_productionKeys⟩
  · rw [productionKeys_eq_map_preorder, List.map_map]
    rfl
  · intro symbol
    refine ⟨_, t.lists_filter_postorder symbol, ?_⟩
    rw [nodesWithKey_eq_filter_postorder, List.filter_map]
    rfl
  · have hlength := t.length_productionKeys
    omega

end ChomskyChart.Tree
