import ChomskyChart.Proofs.Chart.Equations
import ChomskyChart.Proofs.Grammar.Lookup
import Mathlib.Data.Nat.PSub

/-!
# Charts without defaults

Rows, cells and productions are found at positions that are computed, and a look-up beyond the end
gives an empty cell or no production. Here the chart is filled once more by strict look-ups, which
have no result at such a position, and by differences that have none below zero. The strict chart
is the chart: no default is ever taken, and every difference is exact.
-/
namespace ChomskyChart

/-- Steps that all have a result have one together. -/
theorem mapM_eq_some_of_forall {α β : Type} {step? : α → Option β} {step : α → β} {l : List α}
    (h : ∀ a ∈ l, step? a = some (step a)) : l.mapM step? = some (l.map step) := by
  induction l with
  | nil => rfl
  | cons a l ih =>
    obtain ⟨ha, hl⟩ := List.forall_mem_cons.mp h
    rw [List.mapM_cons, ha, ih hl]
    rfl

theorem mapM_array_eq_some_of_forall {α β : Type} {step? : α → Option β} {step : α → β}
    {xs : Array α} (h : ∀ a ∈ xs, step? a = some (step a)) :
    xs.mapM step? = some (xs.map step) := by
  rw [Array.mapM_eq_mapM_toList,
    mapM_eq_some_of_forall fun a ha => h a (Array.mem_toList_iff.mp ha), ← Array.toList_map]
  rfl

/-- Lists from steps over a list, joined in order, if every step has a result. -/
def joinM {α β : Type} (step? : α → Option (List β)) (l : List α) : Option (List β) :=
  (l.mapM step?).map List.flatten

theorem joinM_eq_some_of_forall {α β : Type} {step? : α → Option (List β)} {step : α → List β}
    {l : List α} (h : ∀ a ∈ l, step? a = some (step a)) :
    joinM step? l = some (l.flatMap step) := by
  rw [joinM, mapM_eq_some_of_forall h, Option.map_some, List.flatMap_def]

/-- The cell of a span, if the row of its width is there and has a cell at its start. -/
def Rows.cell? (rows : Rows) (start stop : Nat) : Option Cell := do
  let width ← stop.psub start
  let row ← rows[← width.psub 1]?
  row[start]?

theorem Rows.cell?_of_lt (rows : Rows) {start stop : Nat} (h : start < stop) :
    rows.cell? start stop = rows[stop - start - 1]?.bind (·[start]?) := by
  rw [cell?, Nat.psub_eq_sub (Nat.le_of_lt h), Option.bind_eq_bind, Option.bind_some,
    Nat.psub_eq_sub (Nat.sub_pos_of_lt h)]
  rfl

/-- An empty span has no width of which one could be taken. -/
theorem Rows.cell?_of_le (rows : Rows) {start stop : Nat} (h : stop ≤ start) :
    rows.cell? start stop = none := by
  rw [cell?]
  rcases Nat.lt_or_eq_of_le h with h | rfl
  · rw [Nat.psub_eq_none.mpr h]
    rfl
  · rw [Nat.psub_eq_sub (Nat.le_refl _), Nat.sub_self]
    rfl

theorem Rows.cell?_eq_some_iff {rows : Rows} {start stop : Nat} {cell : Cell} :
    rows.cell? start stop = some cell ↔
      start < stop ∧ ∃ row, rows[stop - start - 1]? = some row ∧ row[start]? = some cell := by
  rcases Nat.lt_or_ge start stop with h | h
  · rw [rows.cell?_of_lt h, Option.bind_eq_some_iff]
    exact (and_iff_right h).symm
  · rw [rows.cell?_of_le h]
    exact ⟨nofun, fun hspan => absurd hspan.1 (Nat.not_lt_of_le h)⟩

/-- A strict look-up that has a result has the cell. -/
theorem Rows.cell_of_cell? {rows : Rows} {start stop : Nat} {cell : Cell}
    (h : rows.cell? start stop = some cell) : rows.cell start stop = cell := by
  obtain ⟨-, row, hrow, hcell⟩ := cell?_eq_some_iff.mp h
  rw [Rows.cell, hrow, Option.getD_some, hcell, Option.getD_some]

/-- The cell of a span as a strict look-up in the rows, none for a span that is empty or reaches
beyond the tokens: such a span is not looked up. -/
def Chart.cell? (c : Chart) (start stop : Nat) : Option Cell :=
  if start < stop ∧ stop ≤ c.length then c.rows.cell? start stop else some []

namespace Grammar

/-- The productions at these positions, if there is one at each. -/
def select? (g : Grammar) (positions : List Nat) : Option (List Production) :=
  positions.mapM (g.productions[·]?)

def seed? (g : Grammar) (token : String) : Option Cell := do
  let found ← g.select? (g.byLiteral.positions token)
  return found.map (.leaf · token)

def combine? (g : Grammar) (lefts rights : Cell) : Option Cell :=
  lefts |> joinM fun l => rights |> joinM fun r => do
    let found ← g.select? (g.byPair.positions ⟨l.key, r.key⟩)
    return found.map (.branch · l r)

/-- The splits of a span lie between its bounds, so their number is no difference to check. -/
def join? (g : Grammar) (narrower : Rows) (start stop : Nat) : Option Cell :=
  List.range' (start + 1) (stop - start - 1) |> joinM fun split => do
    g.combine? (← narrower.cell? start split) (← narrower.cell? split stop)

def row? (g : Grammar) (tokens : Array String) (narrower : Rows) : Nat → Option (Array Cell)
  | 0 => tokens.mapM g.seed?
  | width + 1 => do
    let last ← tokens.size.psub (width + 2)
    (Array.range (last + 1)).mapM fun start => g.join? narrower start (start + width + 2)

def rows? (g : Grammar) (tokens : Array String) : Nat → Option Rows
  | 0 => some #[]
  | width + 1 => do
    let narrower ← g.rows? tokens width
    return narrower.push (← g.row? tokens narrower width)

/-- The chart of all spans of the tokens, filled by strict look-ups. -/
def chart? (g : Grammar) (tokens : List String) : Option Chart := do
  return ⟨tokens.length, ← g.rows? tokens.toArray tokens.length⟩

def parses? (g : Grammar) (tokens : List String) : Option Cell :=
  (g.chart? tokens).map Chart.widest

def parsesMatching? (g : Grammar) (tokens targets : List String) : Option Cell :=
  (g.parses? tokens).map (·.matching targets)

variable (g : Grammar)

/-! ## Productions -/

theorem select?_of_scans {here : Production → Bool} {bucket : List Nat} {found : List Production}
    (h : Scans g.toList here bucket found) : g.select? bucket = some found := by
  have hstored : bucket.map (g.productions[·]?) = found.map some := by
    rw [← h.stored]
    simp [toList]
  have hfound : found.mapM some = some (found.map id) := mapM_eq_some_of_forall fun _ _ => rfl
  calc g.select? bucket = (bucket.map (g.productions[·]?)).mapM id := by
        rw [select?, List.mapM_map]
        rfl
    _ = found.mapM some := by
        rw [hstored, List.mapM_map]
        rfl
    _ = some found := by
        rw [hfound, List.map_id]

/-- A look-up by literal meets a production at every position that it finds. -/
theorem select?_byLiteral (token : String) :
    g.select? (g.byLiteral.positions token) = some (g.matchesLiteral token) := by
  rw [positions_byLiteral, matchesLiteral_eq]
  exact g.select?_of_scans (scans_findIdxs _ _)

theorem select?_byPair (left right : String) :
    g.select? (g.byPair.positions ⟨left, right⟩) = some (g.matchesPair left right) := by
  rw [positions_byPair, matchesPair_eq]
  exact g.select?_of_scans (scans_findIdxs _ _)

theorem seed?_eq (token : String) : g.seed? token = some (g.seed token) := by
  rw [seed?, select?_byLiteral]
  rfl

theorem combine?_eq (lefts rights : Cell) :
    g.combine? lefts rights = some (g.combine lefts rights) := by
  refine joinM_eq_some_of_forall fun l _ => joinM_eq_some_of_forall fun r _ => ?_
  rw [select?_byPair]
  rfl

/-! ## Rows -/

/-- A row has a cell for every start that leaves room for its width. -/
theorem size_row (tokens : Array String) (narrower : Rows) (width : Nat) :
    (g.row tokens narrower width).size = tokens.size - width := by
  cases width with
  | zero => rw [row, Array.size_map, Nat.sub_zero]
  | succ width => rw [row, Array.size_map, Array.size_range]

/-- The rows that are filled reach as far as the spans of their widths within the tokens. -/
theorem cell?_rows (tokens : Array String) {start stop n : Nat} (hlt : start < stop)
    (hle : stop ≤ tokens.size) (hn : stop - start ≤ n) :
    (g.rows tokens n).cell? start stop = some ((g.rows tokens n).cell start stop) := by
  have hrow := g.getElem?_rows tokens (show stop - start - 1 < n by omega)
  have hstart : start <
      (g.row tokens (g.rows tokens (stop - start - 1)) (stop - start - 1)).size := by
    rw [size_row]
    omega
  have hcell := Array.getElem?_eq_getElem hstart
  have hfound := Rows.cell?_eq_some_iff.mpr ⟨hlt, _, hrow, hcell⟩
  rw [hfound, Rows.cell_of_cell? hfound]

/-- Both cells beside a split are in the rows that are narrower than the span. -/
theorem join?_eq (tokens : Array String) {start width : Nat} (h : start + width + 2 ≤ tokens.size) :
    g.join? (g.rows tokens (width + 1)) start (start + width + 2) =
      some (g.join (g.rows tokens (width + 1)) start (start + width + 2)) := by
  refine joinM_eq_some_of_forall fun split hsplit => ?_
  obtain ⟨hl, hr⟩ := List.mem_range'_1.mp hsplit
  rw [g.cell?_rows tokens (by omega) (by omega) (by omega),
    g.cell?_rows tokens (by omega) (by omega) (by omega)]
  exact g.combine?_eq _ _

theorem row?_eq (tokens : Array String) {width : Nat} (h : width < tokens.size) :
    g.row? tokens (g.rows tokens width) width =
      some (g.row tokens (g.rows tokens width) width) := by
  cases width with
  | zero =>
    rw [row?, mapM_array_eq_some_of_forall fun token _ => g.seed?_eq token]
    rfl
  | succ width =>
    have hlast : tokens.size - (width + 2) + 1 = tokens.size - (width + 1) := by omega
    rw [row?, Nat.psub_eq_sub (by omega), Option.bind_eq_bind, Option.bind_some, hlast]
    refine mapM_array_eq_some_of_forall fun start hstart => ?_
    have := Array.mem_range.mp hstart
    exact g.join?_eq tokens (by omega)

theorem rows?_eq (tokens : Array String) {n : Nat} (h : n ≤ tokens.size) :
    g.rows? tokens n = some (g.rows tokens n) := by
  induction n with
  | zero => rfl
  | succ n ih =>
    rw [rows?, ih (by omega), Option.bind_eq_bind, Option.bind_some, g.row?_eq tokens h]
    rfl

/-! ## The chart -/

/-- Filling a chart takes no default. -/
theorem chart?_eq (tokens : List String) : g.chart? tokens = some (g.chart tokens) := by
  have hrows := g.rows?_eq tokens.toArray (Nat.le_of_eq List.size_toArray.symm)
  rw [chart?, hrows]
  rfl

theorem parses?_eq (tokens : List String) : g.parses? tokens = some (g.parses tokens) := by
  rw [parses?, chart?_eq]
  rfl

theorem parsesMatching?_eq (tokens : List String) :
    g.parsesMatching? tokens = fun targets => some (g.parsesMatching tokens targets) := by
  funext targets
  rw [parsesMatching?, parses?_eq]
  rfl

/-- Neither does looking into it. -/
theorem cell?_chart (tokens : List String) (start stop : Nat) :
    (g.chart tokens).cell? start stop = some ((g.chart tokens).cell start stop) := by
  rw [Chart.cell?, Chart.cell]
  by_cases h : start < stop ∧ stop ≤ (g.chart tokens).length
  · rw [if_pos h, if_pos h]
    exact g.cell?_rows tokens.toArray h.1 h.2 (Nat.le_trans (Nat.sub_le _ _) h.2)
  · rw [if_neg h, if_neg h]

end Grammar

end ChomskyChart
