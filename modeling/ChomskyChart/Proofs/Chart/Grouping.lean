import ChomskyChart.Proofs.Chart.Simulation
import ChomskyChart.Tree.Drawing
import Mathlib.Data.List.Count

/-!
# Grouped literals

A terminal production with several literals stands for one production for each of them. Whether
literals are grouped, in which order they are listed and how often, is told by the productions at
the leaves of a tree and by nothing else: cell by cell the trees are the same otherwise.
-/
namespace ChomskyChart

/-- The second list has, in place of each terminal production of the first one, a production for
each of its literals, once and in whatever order. -/
inductive Ungrouped : List Production → List Production → Prop
  | nil : Ungrouped [] []
  | terminal {key : String} {literals each : List String} {ps qs : List Production}
      (nodup : each.Nodup) (mem_iff : ∀ token, token ∈ each ↔ token ∈ literals)
      (rest : Ungrouped ps qs) :
      Ungrouped (.terminal key literals :: ps) (each.map (fun l => .terminal key [l]) ++ qs)
  | nonterminal {key left right : String} {ps qs : List Production} (rest : Ungrouped ps qs) :
      Ungrouped (.nonterminal key left right :: ps) (.nonterminal key left right :: qs)

namespace Tree

/-- The tree without the literals of the productions at its leaves. -/
def withoutLiterals : Tree → Tree
  | leaf p token => leaf (.terminal p.key []) token
  | branch p left right => branch p left.withoutLiterals right.withoutLiterals

theorem key_withoutLiterals (t : Tree) : t.withoutLiterals.key = t.key := by
  cases t <;> rfl

/-- The bracketed form shows keys and tokens only. -/
theorem text_withoutLiterals (t : Tree) : t.withoutLiterals.text = t.text := by
  induction t with
  | leaf => rfl
  | branch p left right ihl ihr => rw [withoutLiterals, text, text, ihl, ihr]

end Tree

/-! ## Matches -/

namespace Ungrouped

variable {ps qs : List Production}

/-- Of the productions for single literals one at most lists a token. -/
theorem filter_map_terminal {each : List String} (h : each.Nodup) (key token : String) :
    (each.map fun l => Production.terminal key [l]).filter (token ∈ ·.literals) =
      if token ∈ each then [.terminal key [token]] else [] := by
  have hlists : each.filter (fun l => token ∈ (Production.terminal key [l]).literals) =
      each.filter (· = token) := by
    refine List.filter_congr fun l _ => ?_
    simp [Production.terminal, Production.literals, eq_comm]
  rw [List.filter_map, Function.comp_def, hlists, List.filter_eq, h.count]
  split <;> rfl

/-- A token is listed under the same keys, in the same order. -/
theorem map_key_matchesLiteral (h : Ungrouped ps qs) (token : String) :
    ((Grammar.ofList ps).matchesLiteral token).map (·.key) =
      ((Grammar.ofList qs).matchesLiteral token).map (·.key) := by
  simp only [Grammar.matchesLiteral_eq, Grammar.toList_ofList]
  induction h with
  | nil => rfl
  | @terminal key literals each ps qs nodup mem_iff rest ih =>
    rw [List.filter_append, filter_map_terminal nodup, List.map_append, ← ih, List.filter_cons]
    simp only [mem_iff token]
    by_cases hlisted : token ∈ literals
    · simp [Production.terminal, Production.literals, hlisted]
    · simp [Production.terminal, Production.literals, hlisted]
  | nonterminal rest ih => simpa [Production.nonterminal, Production.literals] using ih

/-- The pairs are left alone. -/
theorem matchesPair_eq (h : Ungrouped ps qs) (left right : String) :
    (Grammar.ofList ps).matchesPair left right = (Grammar.ofList qs).matchesPair left right := by
  simp only [Grammar.matchesPair_eq, Grammar.toList_ofList]
  induction h with
  | nil => rfl
  | @terminal key literals each ps qs nodup mem_iff rest ih =>
    have hnone : (each.map fun l => Production.terminal key [l]).filter
        (·.components? = some ⟨left, right⟩) = [] := by
      simp [Production.terminal, Production.components?]
    rw [List.filter_append, hnone, List.nil_append, ← ih]
    simp [Production.terminal, Production.components?]
  | nonterminal rest ih => rw [List.filter_cons, List.filter_cons, ih]

end Ungrouped

/-! ## Cells -/

namespace Grammar

variable {ps qs : List Production}

theorem map_withoutLiterals_seed (g : Grammar) (token : String) :
    (g.seed token).map Tree.withoutLiterals =
      ((g.matchesLiteral token).map (·.key)).map fun key => .leaf (.terminal key []) token := by
  rw [seed, List.map_map, List.map_map]
  rfl

/-- Trees are joined by their keys, so it does not matter whether literals are dropped before. -/
theorem map_withoutLiterals_combine (g : Grammar) (lefts rights : Cell) :
    (g.combine lefts rights).map Tree.withoutLiterals =
      g.combine (lefts.map Tree.withoutLiterals) (rights.map Tree.withoutLiterals) :=
  g.map_combine_of_key (fun _ _ _ => rfl) Tree.key_withoutLiterals lefts rights

theorem combine_ungrouped (h : Ungrouped ps qs) (lefts rights : Cell) :
    (ofList ps).combine lefts rights = (ofList qs).combine lefts rights := by
  simp only [combine, h.matchesPair_eq]

theorem simulation_ungrouped (h : Ungrouped ps qs) :
    Simulation (ofList ps) (ofList qs) (· = ·)
      fun cell cell' => cell.map Tree.withoutLiterals = cell'.map Tree.withoutLiterals where
  nil := rfl
  append hcell hmore := by rw [List.map_append, List.map_append, hcell, hmore]
  seed {token token'} htoken := by
    subst htoken
    rw [map_withoutLiterals_seed, map_withoutLiterals_seed, h.map_key_matchesLiteral]
  combine hl hr := by
    rw [map_withoutLiterals_combine, map_withoutLiterals_combine, hl, hr, combine_ungrouped h]

/-- Ungrouping the literals leaves every cell with the same trees in the same order, up to the
literals of the productions at their leaves; in brackets the trees are the same. -/
theorem cell_ungrouped (h : Ungrouped ps qs) (tokens : List String) (start stop : Nat) :
    (((ofList ps).chart tokens).cell start stop).map Tree.withoutLiterals =
        (((ofList qs).chart tokens).cell start stop).map Tree.withoutLiterals ∧
      (((ofList ps).chart tokens).cell start stop).map Tree.text =
        (((ofList qs).chart tokens).cell start stop).map Tree.text := by
  have hcells := (simulation_ungrouped h).cell (List.forall₂_refl tokens) start stop
  have htext : Tree.text ∘ Tree.withoutLiterals = Tree.text := funext Tree.text_withoutLiterals
  refine ⟨hcells, ?_⟩
  rw [← htext, ← List.map_map, ← List.map_map, hcells]

/-- Literals listed twice, in two productions and in none. -/
def grouped : List Production :=
  [.terminal "S" ["b", "a", "b"], .nonterminal "S" "S" "S", .terminal "T" [],
    .terminal "S" ["a"]]

def singles : List Production :=
  [.terminal "S" ["a"], .terminal "S" ["b"], .nonterminal "S" "S" "S", .terminal "S" ["a"]]

theorem ungrouped_singles : Ungrouped grouped singles :=
  @Ungrouped.terminal "S" ["b", "a", "b"] ["a", "b"] _ _ (by decide) (by grind) <|
    .nonterminal <| @Ungrouped.terminal "T" [] [] _ _ (by decide) (by grind) <|
      @Ungrouped.terminal "S" ["a"] ["a"] _ _ (by decide) (by grind) .nil

theorem cell_ungrouped_singles :
    Ungrouped grouped singles ∧
      (((ofList grouped).chart ["c", "a", "b", "a"]).cell 1 4).map Tree.withoutLiterals =
          (((ofList singles).chart ["c", "a", "b", "a"]).cell 1 4).map Tree.withoutLiterals ∧
        (((ofList grouped).chart ["c", "a", "b", "a"]).cell 1 4).map Tree.text =
          (((ofList singles).chart ["c", "a", "b", "a"]).cell 1 4).map Tree.text :=
  ⟨ungrouped_singles, cell_ungrouped ungrouped_singles ["c", "a", "b", "a"] 1 4⟩

end Grammar

end ChomskyChart
