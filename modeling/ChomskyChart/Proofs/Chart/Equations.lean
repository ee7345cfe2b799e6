import ChomskyChart.Chart.Fill
import Mathlib.Data.List.Basic

/-!
# Equations between cells

The cell of one token is its seed, and the cell of a wider span joins, split by split, the
cells on both sides of the split. The rows are addressed by width and start; the equations
below speak of spans only, and later proofs never look at a row again.
-/
namespace ChomskyChart.Grammar

variable (g : Grammar)

/-- A cell is settled by the row of its width, however many wider rows there are. -/
theorem cell_rows (tokens : Array String) {start stop n : Nat} (h : stop - start - 1 < n) :
    (g.rows tokens n).cell start stop =
      ((g.row tokens (g.rows tokens (stop - start - 1)) (stop - start - 1))[start]?).getD [] := by
  rw [Rows.cell, g.getElem?_rows tokens h, Option.getD_some]

theorem cell_chart (tokens : List String) {start stop : Nat} (hlt : start < stop)
    (hle : stop ≤ tokens.length) :
    (g.chart tokens).cell start stop =
      (g.rows tokens.toArray tokens.length).cell start stop := by
  rw [Chart.cell, if_pos ⟨hlt, hle⟩, chart]

/-- What is read while a row is filled is what the whole chart holds. -/
theorem cell_rows_eq_cell (tokens : List String) {start stop n : Nat} (hlt : start < stop)
    (hle : stop ≤ tokens.length) (hn : stop - start ≤ n) :
    (g.rows tokens.toArray n).cell start stop = (g.chart tokens).cell start stop := by
  rw [g.cell_chart tokens hlt hle, g.cell_rows _ (by omega), g.cell_rows _ (by omega)]

/-- The equation of the narrowest spans. -/
theorem cell_token (tokens : List String) {i : Nat} (h : i < tokens.length) :
    (g.chart tokens).cell i (i + 1) = g.seed tokens[i] := by
  have hw : i + 1 - i - 1 = 0 := by omega
  rw [g.cell_chart tokens (Nat.lt_succ_self i) h, g.cell_rows _ (by omega), hw]
  simp [row, h]

/-- The equation of the wider spans. Both cells beside a split are narrower than the span. -/
theorem cell_splits (tokens : List String) {start stop : Nat} (hlt : start + 1 < stop)
    (hle : stop ≤ tokens.length) :
    (g.chart tokens).cell start stop =
      (List.range' (start + 1) (stop - start - 1)).flatMap fun split =>
        g.combine ((g.chart tokens).cell start split) ((g.chart tokens).cell split stop) := by
  obtain ⟨width, rfl⟩ : ∃ width, stop = start + width + 2 := ⟨stop - start - 2, by omega⟩
  have hw : start + width + 2 - start - 1 = width + 1 := by omega
  have hrow : (g.chart tokens).cell start (start + width + 2) =
      g.join (g.rows tokens.toArray (width + 1)) start (start + width + 2) := by
    rw [g.cell_chart tokens (by omega) hle, g.cell_rows _ (by omega), hw]
    have hstart : start < tokens.length - (width + 1) := by omega
    simp [row, hstart]
  rw [hrow, join]
  refine List.flatMap_congr fun split hs => ?_
  obtain ⟨hl, hr⟩ := List.mem_range'_1.mp hs
  rw [g.cell_rows_eq_cell tokens (by omega) (by omega) (by omega),
    g.cell_rows_eq_cell tokens (by omega) hle (by omega)]

/-- A span without tokens has no derivation. -/
theorem cell_of_le (tokens : List String) {start stop : Nat} (h : stop ≤ start) :
    (g.chart tokens).cell start stop = [] := by
  rw [Chart.cell, if_neg (by omega)]

/-- A span that reaches beyond the tokens has no derivation. -/
theorem cell_of_length_lt (tokens : List String) {start stop : Nat} (h : tokens.length < stop) :
    (g.chart tokens).cell start stop = [] := by
  have hbeyond : ¬ (start < stop ∧ stop ≤ (g.chart tokens).length) := fun hspan =>
    Nat.not_le_of_lt h hspan.2
  rw [Chart.cell, if_neg hbeyond]

/-- The widest row has one cell, that of the span of all tokens. -/
theorem parses_eq_cell (tokens : List String) :
    g.parses tokens = (g.chart tokens).cell 0 tokens.length := by
  rw [parses, Chart.widest]
  cases hn : tokens.length with
  | zero => simp [chart, hn, rows, Chart.cell]
  | succ n =>
    have hback : (g.chart tokens).rows.back? =
        some (g.row tokens.toArray (g.rows tokens.toArray n) n) := by
      rw [chart, hn, rows, Array.back?_push]
    rw [hback, ← hn, g.cell_chart tokens (by omega) (Nat.le_refl _), g.cell_rows _ (by omega)]
    simp [hn]

end ChomskyChart.Grammar
