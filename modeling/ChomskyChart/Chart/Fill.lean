import ChomskyChart.Chart.Basic
import ChomskyChart.Grammar.Basic

/-!
# Filling a chart

The cell of one token has a leaf for every production that lists it. The cell of a wider
span joins, split by split, what the two narrower cells hold on both sides of the split.
A row reads narrower rows only, so the rows are filled in the order of their width.
-/
namespace ChomskyChart.Grammar

def seed (g : Grammar) (token : String) : Cell :=
  (g.matchesLiteral token).map (.leaf · token)

/-- A branch for every left tree, right tree and production with their keys as components. -/
def combine (g : Grammar) (lefts rights : Cell) : Cell :=
  lefts.flatMap fun l => rights.flatMap fun r =>
    (g.matchesPair l.key r.key).map (.branch · l r)

theorem mem_seed {g : Grammar} {token : String} {t : Tree} :
    t ∈ g.seed token ↔ ∃ p ∈ g.matchesLiteral token, .leaf p token = t :=
  List.mem_map

theorem mem_combine {g : Grammar} {lefts rights : Cell} {t : Tree} :
    t ∈ g.combine lefts rights ↔
      ∃ l ∈ lefts, ∃ r ∈ rights, ∃ p ∈ g.matchesPair l.key r.key, .branch p l r = t := by
  simp only [combine, List.mem_flatMap, List.mem_map]

/-- The derivations of a span of two or more tokens out of narrower cells. -/
def join (g : Grammar) (narrower : Rows) (start stop : Nat) : Cell :=
  (List.range' (start + 1) (stop - start - 1)).flatMap fun split =>
    g.combine (narrower.cell start split) (narrower.cell split stop)

/-- The row of the spans with `width + 1` tokens. -/
def row (g : Grammar) (tokens : Array String) (narrower : Rows) : Nat → Array Cell
  | 0 => tokens.map g.seed
  | width + 1 =>
    (Array.range (tokens.size - (width + 1))).map fun start =>
      g.join narrower start (start + width + 2)

/-- The first rows, as many as asked for. -/
def rows (g : Grammar) (tokens : Array String) : Nat → Rows
  | 0 => #[]
  | width + 1 =>
    let narrower := g.rows tokens width
    narrower.push (g.row tokens narrower width)

theorem size_rows (g : Grammar) (tokens : Array String) (n : Nat) : (g.rows tokens n).size = n := by
  induction n with
  | zero => rfl
  | succ n ih => simp [rows, ih]

/-- A row is filled from the narrower ones, and wider ones leave it as it is. -/
theorem getElem?_rows (g : Grammar) (tokens : Array String) {i n : Nat} (h : i < n) :
    (g.rows tokens n)[i]? = some (g.row tokens (g.rows tokens i) i) := by
  induction n with
  | zero => omega
  | succ n ih =>
    have hs := g.size_rows tokens n
    rw [rows, Array.getElem?_push]
    by_cases hi : i = n
    · subst hi
      rw [if_pos hs.symm]
    · rw [if_neg (by omega), ih (by omega)]

/-- The chart of all spans of the tokens. -/
def chart (g : Grammar) (tokens : List String) : Chart :=
  ⟨tokens.length, g.rows tokens.toArray tokens.length⟩

/-- Every derivation of the tokens. -/
def parses (g : Grammar) (tokens : List String) : Cell :=
  (g.chart tokens).widest

/-- The derivations with one of the target symbols at their root. -/
def parsesMatching (g : Grammar) (tokens targets : List String) : Cell :=
  (g.parses tokens).matching targets

end ChomskyChart.Grammar
