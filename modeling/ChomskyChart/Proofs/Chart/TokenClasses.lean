import ChomskyChart.Proofs.Chart.Membership
import ChomskyChart.Proofs.Chart.Simulation

/-!
# Tokens of one class

Two tokens are of one class if the same productions list them. A grammar does not tell them apart:
put in place of each other they leave a chart as it is, apart from the tokens at the leaves. Which
leaf shows which token is a matter of its number in the tree and of the start of the span.
-/
namespace ChomskyChart

namespace Tree

/-- The tree with other tokens at its leaves, `words i` at leaf number `i` from the left. -/
def withTokens : Tree → (Nat → String) → Tree
  | leaf p _, words => leaf p (words 0)
  | branch p left right, words =>
    branch p (left.withTokens words) (right.withTokens fun i => words (left.tokens.length + i))

/-- The productions of a tree in their places, with an empty token at every leaf. -/
def withoutTokens (t : Tree) : Tree := t.withTokens fun _ => ""

variable (t : Tree) (words words' : Nat → String)

theorem length_tokens_withTokens : (t.withTokens words).tokens.length = t.tokens.length := by
  induction t generalizing words with
  | leaf => rfl
  | branch p left right ihl ihr =>
    rw [withTokens, tokens, tokens, List.length_append, List.length_append, ihl, ihr]

/-- The old tokens do not matter. -/
theorem withTokens_withTokens : (t.withTokens words).withTokens words' = t.withTokens words' := by
  induction t generalizing words words' with
  | leaf => rfl
  | branch p left right ihl ihr =>
    rw [withTokens, withTokens, withTokens, ihl, ihr, length_tokens_withTokens]

theorem key_withoutTokens : t.withoutTokens.key = t.key := by
  cases t <;> rfl

variable {t words}

/-- A tree is settled by its productions and its tokens. -/
theorem withTokens_eq_self (h : ∀ i < t.tokens.length, t.tokens[i]? = some (words i)) :
    t.withTokens words = t := by
  induction t generalizing words with
  | leaf p token =>
    have htoken := h 0 Nat.zero_lt_one
    rw [withTokens, ← Option.some.inj htoken]
  | branch p left right ihl ihr =>
    rw [tokens, List.length_append] at h
    have hleft : ∀ i < left.tokens.length, left.tokens[i]? = some (words i) := by
      intro i hi
      rw [← h i (by omega), List.getElem?_append_left hi]
    have hright : ∀ i < right.tokens.length,
        right.tokens[i]? = some (words (left.tokens.length + i)) := by
      intro i hi
      rw [← h _ (by omega), List.getElem?_append_right (by omega), Nat.add_sub_cancel_left]
    rw [withTokens, ihl hleft, ihr hright]

end Tree

namespace Grammar

variable (g : Grammar)

/-- Tokens of one class are at the leaves of the same trees. -/
theorem map_withoutTokens_seed {token token' : String}
    (h : g.matchesLiteral token = g.matchesLiteral token') :
    (g.seed token).map Tree.withoutTokens = (g.seed token').map Tree.withoutTokens := by
  rw [seed, seed, h, List.map_map, List.map_map]
  rfl

theorem simulation_withoutTokens :
    Simulation g g (fun token token' => g.matchesLiteral token = g.matchesLiteral token')
      fun cell cell' => cell.map Tree.withoutTokens = cell'.map Tree.withoutTokens where
  nil := rfl
  append hcell hmore := by rw [List.map_append, List.map_append, hcell, hmore]
  seed := g.map_withoutTokens_seed
  combine hl hr := by
    have hcombine := g.map_combine_of_key (fun _ _ _ => rfl) Tree.key_withoutTokens
    rw [hcombine, hcombine, hl, hr]

/-- The trees of a cell have the tokens of its span at their leaves already. -/
theorem map_withTokens_cell (tokens : List String) (start stop : Nat) :
    ((g.chart tokens).cell start stop).map (·.withTokens fun i => tokens.getD (start + i) "") =
      (g.chart tokens).cell start stop := by
  refine (List.map_congr_left fun t ht => ?_).trans (List.map_id _)
  have hle := (bounds_of_mem_cell ht).2
  have hlength := start_add_length_of_mem_cell ht
  refine Tree.withTokens_eq_self fun i hi => ?_
  have hin : start + i < tokens.length := by omega
  rw [tokens_of_mem_cell ht, List.extract_eq_take_drop, List.getElem?_take_of_lt (by omega),
    List.getElem?_drop, List.getD_eq_getElem?_getD, List.getElem?_eq_getElem hin,
    Option.getD_some]

/-- A token matters through the productions that list it and through nothing else. If two lists of
tokens agree in the class of every token, then a cell of the one chart is the cell of the other one,
tree by tree, with the tokens of its own span at the leaves. Every leaf gets a token: a tree of the
cell has as many leaves as the span has tokens. -/
theorem cell_withTokens {tokens tokens' : List String}
    (h : List.Forall₂ (fun token token' => g.matchesLiteral token = g.matchesLiteral token')
      tokens tokens') (start stop : Nat) :
    (g.chart tokens').cell start stop =
        ((g.chart tokens).cell start stop).map
          (·.withTokens fun i => tokens'.getD (start + i) "") ∧
      ∀ t ∈ (g.chart tokens).cell start stop,
        start + t.tokens.length = stop ∧ stop ≤ tokens'.length := by
  constructor
  · have hsame := g.simulation_withoutTokens.cell h start stop
    have hagain : (Tree.withTokens · fun i => tokens'.getD (start + i) "") ∘ Tree.withoutTokens =
        (Tree.withTokens · fun i => tokens'.getD (start + i) "") :=
      funext fun t => t.withTokens_withTokens _ _
    rw [← g.map_withTokens_cell tokens' start stop, ← hagain, ← List.map_map, ← List.map_map,
      hsame]
  · intro t ht
    exact ⟨start_add_length_of_mem_cell ht, h.length_eq ▸ (bounds_of_mem_cell ht).2⟩

/-- The tokens `a` and `c` are listed together, twice. -/
def classes : Grammar :=
  ofList [.terminal "S" ["a", "c"], .nonterminal "S" "S" "S", .terminal "T" ["b"],
    .terminal "S" ["c", "a"], .nonterminal "S" "S" "T"]

theorem cell_withTokens_classes :
    List.Forall₂ (fun token token' => classes.matchesLiteral token = classes.matchesLiteral token')
        ["a", "a", "b", "c"] ["a", "c", "b", "a"] ∧
      (classes.chart ["a", "c", "b", "a"]).cell 1 4 =
        ((classes.chart ["a", "a", "b", "c"]).cell 1 4).map
          (·.withTokens fun i => ["a", "c", "b", "a"].getD (1 + i) "") ∧
      ∀ t ∈ (classes.chart ["a", "a", "b", "c"]).cell 1 4,
        1 + t.tokens.length = 4 ∧ 4 ≤ ["a", "c", "b", "a"].length :=
  have h : List.Forall₂
      (fun token token' => classes.matchesLiteral token = classes.matchesLiteral token')
      ["a", "a", "b", "c"] ["a", "c", "b", "a"] :=
    .cons rfl <| .cons (by decide +kernel) <| .cons rfl <| .cons (by decide +kernel) .nil
  ⟨h, cell_withTokens classes h 1 4⟩

end Grammar

end ChomskyChart
