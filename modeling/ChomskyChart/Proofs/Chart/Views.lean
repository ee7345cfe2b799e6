import ChomskyChart.Proofs.Chart.Strict

/-!
# The views of a chart

A chart is seen in four ways: as rows of cells, cell by cell through the bounds of a span, as the
list of its cells that are not empty, and through the one cell of its widest row. They show the
same cells.
-/
namespace ChomskyChart

/-- The order of spans by width and then by start. -/
def Span.Before (s t : Span) : Prop :=
  s.stop - s.start < t.stop - t.start ∨ s.stop - s.start = t.stop - t.start ∧ s.start < t.start

theorem Span.before_irrefl (s : Span) : ¬ s.Before s := by
  intro h
  rcases h with h | h
  · exact Nat.lt_irrefl _ h
  · exact Nat.lt_irrefl _ h.2

/-- In a list in some order, an element with nothing behind it is the last one. -/
theorem getLast?_of_pairwise {α : Type} {before : α → α → Prop} {l : List α} {a : α}
    (hl : l.Pairwise before) (ha : a ∈ l) (hlast : ∀ b ∈ l, ¬ before a b) :
    l.getLast? = some a := by
  obtain ⟨front, back, rfl⟩ := List.append_of_mem ha
  cases back with
  | nil => exact List.getLast?_concat
  | cons b back =>
    have hab := (List.pairwise_cons.mp (List.pairwise_append.mp hl).2.1).1 b List.mem_cons_self
    exact absurd hab (hlast b (by simp))

/-- The cells of a row that are not empty, with their spans. -/
def rowSpans (row : Array Cell) (i : Nat) : List Span :=
  row.toList.zipIdx.filterMap fun (cell, start) =>
    if cell = [] then none else some ⟨start, start + i + 1, cell⟩

theorem mem_rowSpans {row : Array Cell} {i : Nat} {s : Span} :
    s ∈ rowSpans row i ↔
      row[s.start]? = some s.cell ∧ s.stop = s.start + i + 1 ∧ s.cell ≠ [] := by
  rw [rowSpans, List.mem_filterMap]
  constructor
  · intro h
    obtain ⟨⟨cell, start⟩, hcell, hs⟩ := h
    obtain ⟨hne, hs⟩ := Option.ite_none_left_eq_some.mp hs
    rw [← Option.some.inj hs]
    rw [List.mem_zipIdx_iff_getElem?, Array.getElem?_toList] at hcell
    exact ⟨hcell, rfl, hne⟩
  · intro h
    obtain ⟨hcell, hstop, hne⟩ := h
    refine ⟨(s.cell, s.start), ?_, (if_neg hne).trans (congrArg some ?_)⟩
    · rw [List.mem_zipIdx_iff_getElem?, Array.getElem?_toList]
      exact hcell
    · rw [← hstop]

/-- The places of a list ascend. -/
theorem pairwise_zipIdx {α : Type} (l : List α) : l.zipIdx.Pairwise fun a b => a.2 < b.2 := by
  have h : (l.zipIdx.map Prod.snd).Pairwise (· < ·) := by
    rw [List.zipIdx_map_snd]
    exact List.pairwise_lt_range'
  exact List.pairwise_map.mp h

theorem pairwise_rowSpans (row : Array Cell) (i : Nat) :
    (rowSpans row i).Pairwise fun s t => s.start < t.start := by
  refine List.pairwise_filterMap.mpr ((pairwise_zipIdx row.toList).imp ?_)
  intro a b hab s hs t ht
  rw [← Option.some.inj (Option.ite_none_left_eq_some.mp hs).2,
    ← Option.some.inj (Option.ite_none_left_eq_some.mp ht).2]
  exact hab

namespace Chart

variable (c : Chart)

theorem spans_eq : c.spans = c.rows.toList.zipIdx.flatMap fun (row, i) => rowSpans row i := rfl

/-- The spans are those at which a strict look-up finds a cell that is not empty. -/
theorem mem_spans {s : Span} :
    s ∈ c.spans ↔ c.rows.cell? s.start s.stop = some s.cell ∧ s.cell ≠ [] := by
  rw [Rows.cell?_eq_some_iff, spans_eq, List.mem_flatMap]
  constructor
  · intro h
    obtain ⟨⟨row, i⟩, hrow, hs⟩ := h
    obtain ⟨hcell, hstop, hne⟩ := mem_rowSpans.mp hs
    have hi : s.stop - s.start - 1 = i := by omega
    rw [List.mem_zipIdx_iff_getElem?, Array.getElem?_toList] at hrow
    exact ⟨⟨by omega, row, hi ▸ hrow, hcell⟩, hne⟩
  · intro h
    obtain ⟨⟨hlt, row, hrow, hcell⟩, hne⟩ := h
    refine ⟨(row, s.stop - s.start - 1), ?_, mem_rowSpans.mpr ⟨hcell, by omega, hne⟩⟩
    rw [List.mem_zipIdx_iff_getElem?, Array.getElem?_toList]
    exact hrow

/-- Rows come by their width, and the cells of a row by their start. -/
theorem pairwise_spans : c.spans.Pairwise Span.Before := by
  rw [spans_eq, List.pairwise_flatMap]
  constructor
  · intro row _
    refine (pairwise_rowSpans row.1 row.2).imp_of_mem fun {s t} hs ht hst => .inr ⟨?_, hst⟩
    have hs := (mem_rowSpans.mp hs).2.1
    have ht := (mem_rowSpans.mp ht).2.1
    omega
  · refine (pairwise_zipIdx _).imp fun {row row'} hrows s hs t ht => .inl ?_
    have hs := (mem_rowSpans.mp hs).2.1
    have ht := (mem_rowSpans.mp ht).2.1
    omega

end Chart

namespace Grammar

variable (g : Grammar) (tokens : List String)

theorem size_rows_chart : (g.chart tokens).rows.size = tokens.length :=
  g.size_rows _ _

/-- The row of a width has a cell for every start of a span of this width. -/
theorem exists_row_chart {width : Nat} (hpos : 1 ≤ width) (hle : width ≤ tokens.length) :
    ∃ row, (g.chart tokens).rows[width - 1]? = some row ∧ row.size = tokens.length - width + 1 := by
  refine ⟨_, g.getElem?_rows tokens.toArray (by omega), ?_⟩
  rw [size_row, List.size_toArray]
  omega

theorem cell?_rows_chart_iff {start stop : Nat} {cell : Cell} :
    (g.chart tokens).rows.cell? start stop = some cell ↔
      start < stop ∧ stop ≤ tokens.length ∧ (g.chart tokens).cell start stop = cell := by
  constructor
  · intro h
    obtain ⟨hlt, row, hrow, hcell⟩ := Rows.cell?_eq_some_iff.mp h
    -- the row is there, so its width is one of the tokens, and then its size is known
    have hwidth := (Array.getElem?_eq_some_iff.mp hrow).1
    rw [size_rows_chart] at hwidth
    obtain ⟨row', hrow', hsize⟩ :=
      g.exists_row_chart tokens (show 1 ≤ stop - start by omega) (by omega)
    cases hrow.symm.trans hrow'
    have hstart := (Array.getElem?_eq_some_iff.mp hcell).1
    have hle : stop ≤ tokens.length := by omega
    refine ⟨hlt, hle, ?_⟩
    rw [Chart.cell, if_pos ⟨hlt, hle⟩, Rows.cell_of_cell? h]
  · intro h
    obtain ⟨hlt, hle, rfl⟩ := h
    have hcell := g.cell?_chart tokens start stop
    rwa [Chart.cell?, if_pos ⟨hlt, hle⟩] at hcell

/-- The spans of a chart are its cells that are not empty. -/
theorem mem_spans_chart {s : Span} :
    s ∈ (g.chart tokens).spans ↔
      s.cell = (g.chart tokens).cell s.start s.stop ∧ s.cell ≠ [] := by
  rw [Chart.mem_spans, cell?_rows_chart_iff]
  constructor
  · intro h
    obtain ⟨⟨-, -, hcell⟩, hne⟩ := h
    exact ⟨hcell.symm, hne⟩
  · intro h
    obtain ⟨hcell, hne⟩ := h
    refine ⟨⟨?_, ?_, hcell.symm⟩, hne⟩
    · by_contra hlt
      exact hne (hcell.trans (g.cell_of_le tokens (by omega)))
    · by_contra hle
      exact hne (hcell.trans (g.cell_of_length_lt tokens (by omega)))

/-- The spans lie inside the tokens. -/
theorem bounds_of_mem_spans {s : Span} (h : s ∈ (g.chart tokens).spans) :
    s.start < s.stop ∧ s.stop ≤ tokens.length := by
  have hfound := (Chart.mem_spans _).mp h
  obtain ⟨hlt, hle, -⟩ := (g.cell?_rows_chart_iff tokens).mp hfound.1
  exact ⟨hlt, hle⟩

/-- No span is wider than that of all tokens, and no other one is as wide. -/
theorem getLast?_spans_chart (h : (g.chart tokens).cell 0 tokens.length ≠ []) :
    (g.chart tokens).spans.getLast? =
      some ⟨0, tokens.length, (g.chart tokens).cell 0 tokens.length⟩ := by
  refine getLast?_of_pairwise (Chart.pairwise_spans _) ((g.mem_spans_chart tokens).mpr ⟨rfl, h⟩) ?_
  intro s hs hbefore
  have hbounds := g.bounds_of_mem_spans tokens hs
  rcases hbefore with hwidth | hstart
  · dsimp only at hwidth
    omega
  · dsimp only at hstart
    omega

/-- The views of a chart over `n` tokens agree, and none of them is taken beyond its bounds. There
are `n` rows, with one cell less in each. Every look-up and every difference, while the chart is
filled and when it is read, has a result. Beyond the tokens all is empty. The spans are the cells
that are not empty, each once and in their order, and the last of them is the cell of all tokens,
unless this one is empty. Without tokens there is nothing to see. -/
theorem chart_views :
    ((g.chart tokens).rows.size = tokens.length ∧
      ∀ width, 1 ≤ width → width ≤ tokens.length →
        ∃ row, (g.chart tokens).rows[width - 1]? = some row ∧
          row.size = tokens.length - width + 1) ∧
    (g.chart? tokens = some (g.chart tokens) ∧
      ∀ start stop, (g.chart tokens).cell? start stop = some ((g.chart tokens).cell start stop)) ∧
    (∀ start stop, stop ≤ start ∨ tokens.length < stop →
      (g.chart tokens).cell start stop = []) ∧
    ((∀ s, s ∈ (g.chart tokens).spans ↔
        s.cell = (g.chart tokens).cell s.start s.stop ∧ s.cell ≠ []) ∧
      (g.chart tokens).spans.Nodup ∧ (g.chart tokens).spans.Pairwise Span.Before) ∧
    ((g.chart tokens).parses = (g.chart tokens).cell 0 tokens.length ∧
      (g.chart tokens).widest = (g.chart tokens).cell 0 tokens.length ∧
      ((g.chart tokens).cell 0 tokens.length ≠ [] → (g.chart tokens).spans.getLast? =
        some ⟨0, tokens.length, (g.chart tokens).cell 0 tokens.length⟩)) ∧
    (tokens.length = 0 →
      (g.chart tokens).rows = #[] ∧ (g.chart tokens).spans = [] ∧
        (g.chart tokens).parses = [] ∧ (g.chart tokens).widest = [] ∧
        ∀ start stop, (g.chart tokens).cell start stop = []) := by
  refine ⟨⟨g.size_rows_chart tokens, fun width => g.exists_row_chart tokens⟩,
    ⟨g.chart?_eq tokens, g.cell?_chart tokens⟩, ?_, ⟨fun s => g.mem_spans_chart tokens, ?_, ?_⟩,
    ⟨rfl, g.parses_eq_cell tokens, g.getLast?_spans_chart tokens⟩, ?_⟩
  · intro start stop h
    rcases h with h | h
    · exact g.cell_of_le tokens h
    · exact g.cell_of_length_lt tokens h
  · refine List.nodup_iff_pairwise_ne.mpr ((Chart.pairwise_spans _).imp fun {s t} hst he => ?_)
    exact t.before_irrefl (he ▸ hst)
  · exact Chart.pairwise_spans _
  · intro hnone
    obtain rfl := List.eq_nil_of_length_eq_zero hnone
    exact ⟨rfl, rfl, rfl, rfl, fun start stop => ite_self _⟩

end Grammar

end ChomskyChart
