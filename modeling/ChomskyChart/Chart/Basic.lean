import ChomskyChart.Tree.Basic

/-!
# Charts

A chart holds a cell for every span of a list of tokens, with the derivations of exactly
the tokens in that span. Its rows go by width: the first one has the spans of one token,
the last one the span of all tokens.
-/
namespace ChomskyChart

abbrev Cell := List Tree

/-- The trees with one of the target symbols at their root. -/
def Cell.matching (cell : Cell) (targets : List String) : Cell :=
  cell.filter (·.key ∈ targets)

/-- Rows of cells by ascending width, the cells of a row by ascending start. -/
abbrev Rows := Array (Array Cell)

/-- The cell of the span from `start` up to, not including, `stop`. -/
def Rows.cell (rows : Rows) (start stop : Nat) : Cell :=
  ((rows[stop - start - 1]?.getD #[])[start]?).getD []

structure Chart where
  length : Nat
  rows : Rows

/-- A cell with its span. -/
structure Span where
  start : Nat
  stop : Nat
  cell : Cell
deriving DecidableEq

namespace Chart

def isEmpty (c : Chart) : Bool := c.length == 0

/-- The derivations of a span, none if it is empty or reaches beyond the tokens. -/
def cell (c : Chart) (start stop : Nat) : Cell :=
  if start < stop ∧ stop ≤ c.length then c.rows.cell start stop else []

/-- The derivations of all tokens. -/
def parses (c : Chart) : Cell := c.cell 0 c.length

/-- The first cell of the widest row. -/
def widest (c : Chart) : Cell :=
  (c.rows.back?.bind (·[0]?)).getD []

/-- The cells that are not empty, by ascending width and then start. -/
def spans (c : Chart) : List Span :=
  c.rows.toList.zipIdx.flatMap fun (row, i) =>
    row.toList.zipIdx.filterMap fun (cell, start) =>
      if cell = [] then none else some ⟨start, start + i + 1, cell⟩

end Chart

end ChomskyChart
