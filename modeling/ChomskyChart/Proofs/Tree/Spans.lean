import ChomskyChart.Proofs.Chart.Membership
import ChomskyChart.Proofs.Tree.Traversal

/-!
# Spans

What a node spans is put together out of every piece of its left child and every piece of its right
child. There is one piece at a leaf, so there is one piece everywhere: the tokens of the node, which
stand in a row among the tokens of the tree. In a chart these are the tokens of a span.
-/
namespace ChomskyChart.Tree

variable {t s : Tree} {symbol : String}

theorem terminalSpans_eq (t : Tree) : t.terminalSpans = [t.tokens] := by
  induction t with
  | leaf => rfl
  | branch p left right ihl ihr =>
    rw [terminalSpans, tokens, ihl, ihr, List.flatMap_singleton, List.map_singleton]

theorem productionTerminals_eq (t : Tree) (symbol : String) :
    t.productionTerminals symbol = (t.nodesWithKey symbol).map tokens := by
  rw [productionTerminals, funext terminalSpans_eq, List.map_eq_flatMap]

/-- The nodes with a key are the nodes of the tree that have it. -/
theorem mem_nodesWithKey_iff :
    s ∈ t.nodesWithKey symbol ↔ s.key = symbol ∧ ∃ x : Node, x.In t ∧ x.subtree = s := by
  rw [nodesWithKey_eq_filter_postorder, List.mem_filter, decide_eq_true_iff, List.mem_map, and_comm]
  simp only [mem_postorder_iff]

theorem Node.In.tokens_infix {x : Node} (h : x.In t) : x.subtree.tokens <:+: t.tokens := by
  rw [Occurs.tokens_eq h, List.extract_eq_take_drop]
  exact (List.take_prefix _ _).isInfix.trans (List.drop_suffix _ _).isInfix

/-- A node spans one piece, its tokens. What the nodes with a key span is, node by node, their
tokens, and these are some tokens of the tree in a row, one at least. A tree of a cell has the
tokens of the span. -/
theorem spans_reconstructed (t : Tree) :
    t.terminalSpans = [t.tokens] ∧
      (∀ symbol, t.productionTerminals symbol = (t.nodesWithKey symbol).map tokens ∧
        ∀ span ∈ t.productionTerminals symbol, span ≠ [] ∧ span <:+: t.tokens) ∧
      ∀ (g : Grammar) (tokens : List String) (start stop : Nat),
        t ∈ (g.chart tokens).cell start stop →
          start < stop ∧ stop ≤ tokens.length ∧ t.tokens = tokens.extract start stop := by
  refine ⟨t.terminalSpans_eq, fun symbol => ⟨t.productionTerminals_eq symbol, ?_⟩, ?_⟩
  · intro span hspan
    rw [productionTerminals_eq] at hspan
    obtain ⟨s, hs, rfl⟩ := List.mem_map.mp hspan
    obtain ⟨-, x, hx, rfl⟩ := mem_nodesWithKey_iff.mp hs
    exact ⟨List.ne_nil_of_length_pos x.subtree.length_tokens_pos, hx.tokens_infix⟩
  · intro g tokens start stop h
    obtain ⟨hlt, hle⟩ := Grammar.bounds_of_mem_cell h
    exact ⟨hlt, hle, Grammar.tokens_of_mem_cell h⟩

/-- A noun may stand inside a noun. -/
def nouns : Grammar :=
  .ofList [.nonterminal "N" "J" "N", .terminal "J" ["big"], .terminal "N" ["dog", "big"]]

/-- One noun inside another one, with the same word on both sides. -/
def bigBig : Tree :=
  .branch (.nonterminal "N" "J" "N") (.leaf (.terminal "J" ["big"]) "big")
    (.leaf (.terminal "N" ["dog", "big"]) "big")

theorem spans_reconstructed_nouns :
    bigBig ∈ (nouns.chart ["the", "big", "big", "dog"]).cell 1 3 ∧
      ["big"] ∈ bigBig.productionTerminals "N" ∧
      ["big"] ≠ [] ∧ ["big"] <:+: bigBig.tokens ∧
      1 < 3 ∧ 3 ≤ ["the", "big", "big", "dog"].length ∧
      bigBig.tokens = ["the", "big", "big", "dog"].extract 1 3 := by
  have hcell : bigBig ∈ (nouns.chart ["the", "big", "big", "dog"]).cell 1 3 := by decide +kernel
  have hspan : ["big"] ∈ bigBig.productionTerminals "N" := by decide
  obtain ⟨-, hnodes, hcells⟩ := spans_reconstructed bigBig
  obtain ⟨hne, hinfix⟩ := (hnodes "N").2 ["big"] hspan
  exact ⟨hcell, hspan, hne, hinfix, hcells nouns _ 1 3 hcell⟩

/-- The inner one of two nodes with a key comes first. -/
example : bigBig.productionTerminals "N" = [["big"], ["big", "big"]] := by
  decide

end ChomskyChart.Tree
