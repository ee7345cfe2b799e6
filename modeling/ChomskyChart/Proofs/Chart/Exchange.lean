import ChomskyChart.Proofs.Chart.Membership
import ChomskyChart.Proofs.Tree.Occurrence

/-!
# Subtrees and their cells

A chart keeps a subtree in the cell of the leaves that it covers, wherever it stands in a tree of
another cell. As far as the tree above it is concerned, any tree of that cell with the same key
would do in its place.
-/
namespace ChomskyChart.Grammar

variable {g : Grammar} {tokens : List String} {start stop : Nat} {x y z : Tree}
  {way : List Side} {first last : Nat}

/-- A subtree is in the cell of its leaves. -/
theorem mem_cell_of_occurs (hx : x ∈ (g.chart tokens).cell start stop)
    (hy : x.Occurs way first last y) :
    y ∈ (g.chart tokens).cell (start + first) (start + last) := by
  induction hy generalizing start stop with
  | root x =>
    rwa [Nat.add_zero, start_add_length_of_mem_cell hx]
  | inLeft _ ih =>
    obtain ⟨split, hleft, -, -⟩ := branch_mem_cell_iff.mp hx
    exact ih hleft
  | inRight _ ih =>
    obtain ⟨split, hleft, hright, -⟩ := branch_mem_cell_iff.mp hx
    -- the right child starts where the left one stops
    rw [← Nat.add_assoc, ← Nat.add_assoc, start_add_length_of_mem_cell hleft]
    exact ih hright

/-- A subtree may be replaced by a tree of its cell that has the same key. -/
theorem replaceAt_mem_cell (hx : x ∈ (g.chart tokens).cell start stop)
    (hy : x.Occurs way first last y)
    (hz : z ∈ (g.chart tokens).cell (start + first) (start + last)) (hkey : z.key = y.key) :
    x.replaceAt way z ∈ (g.chart tokens).cell start stop := by
  induction hy generalizing start stop with
  | root x =>
    rw [Nat.add_zero, start_add_length_of_mem_cell hx] at hz
    rwa [Tree.replaceAt_nil]
  | inLeft inside ih =>
    obtain ⟨split, hleft, hright, hp⟩ := branch_mem_cell_iff.mp hx
    refine branch_mem_cell_iff.mpr ⟨split, ih hleft hz hkey, hright, ?_⟩
    rwa [inside.key_replaceAt hkey]
  | inRight inside ih =>
    obtain ⟨split, hleft, hright, hp⟩ := branch_mem_cell_iff.mp hx
    rw [← Nat.add_assoc, ← Nat.add_assoc, start_add_length_of_mem_cell hleft] at hz
    refine branch_mem_cell_iff.mpr ⟨split, hleft, ih hright hz hkey, ?_⟩
    rwa [inside.key_replaceAt hkey]

/-- A subtree, anywhere in a tree of a cell, is in the cell of the leaves that it covers, and every
tree of that cell with the same key can stand in its place: what comes out is in the cell of the
whole tree again. -/
theorem subtree_exchange (hx : x ∈ (g.chart tokens).cell start stop)
    (hy : x.Occurs way first last y) :
    y.tokens = x.tokens.extract first last ∧
      y ∈ (g.chart tokens).cell (start + first) (start + last) ∧
      ∀ z ∈ (g.chart tokens).cell (start + first) (start + last), z.key = y.key →
        (x.replaceAt way z).Occurs way first last z ∧
          x.replaceAt way z ∈ (g.chart tokens).cell start stop := by
  refine ⟨hy.tokens_eq, mem_cell_of_occurs hx hy, fun z hz hkey => ⟨hy.replaceAt ?_, ?_⟩⟩
  · have hlength := start_add_length_of_mem_cell hz
    omega
  · exact replaceAt_mem_cell hx hy hz hkey

/-- Two productions of one symbol for one token, so that there are trees to exchange. -/
def twofold : Grammar :=
  ofList [.nonterminal "S" "S" "S", .terminal "S" ["b"], .terminal "S" ["c", "b"]]

/-- A branch over two leaves, of the first or of the second production for the token. -/
def couple (onLeft onRight : Production) : Tree :=
  .branch (.nonterminal "S" "S" "S") (.leaf onLeft "b") (.leaf onRight "b")

theorem subtree_exchange_couple :
    let plainly := Production.terminal "S" ["b"]
    let broadly := Production.terminal "S" ["c", "b"]
    let whole := Tree.branch (.nonterminal "S" "S" "S") (.leaf broadly "b") (couple plainly plainly)
    whole ∈ (twofold.chart ["a", "b", "b", "b"]).cell 1 4 ∧
      whole.Occurs [.right] 1 3 (couple plainly plainly) ∧
      couple plainly plainly ∈ (twofold.chart ["a", "b", "b", "b"]).cell 2 4 ∧
      couple broadly plainly ∈ (twofold.chart ["a", "b", "b", "b"]).cell 2 4 ∧
      (couple broadly plainly).key = (couple plainly plainly).key ∧
      whole.replaceAt [.right] (couple broadly plainly) ∈
        (twofold.chart ["a", "b", "b", "b"]).cell 1 4 := by
  intro plainly broadly whole
  have hwhole : whole ∈ (twofold.chart ["a", "b", "b", "b"]).cell 1 4 := by decide +kernel
  have hcouple : whole.Occurs [.right] 1 3 (couple plainly plainly) := .inRight (.root _)
  have hother : couple broadly plainly ∈ (twofold.chart ["a", "b", "b", "b"]).cell 2 4 := by
    decide +kernel
  obtain ⟨-, hcell, hexchange⟩ := subtree_exchange hwhole hcouple
  exact ⟨hwhole, hcouple, hcell, hother, rfl, (hexchange _ hother rfl).2⟩

end ChomskyChart.Grammar
