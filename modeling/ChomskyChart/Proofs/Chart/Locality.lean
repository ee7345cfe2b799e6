import ChomskyChart.Proofs.Chart.Cuts
import ChomskyChart.Proofs.Chart.Equations

/-!
# Locality of the cells

A cell depends on the tokens of its span and on nothing else: a piece of a longer list has
the same cells wherever it stands. So the derivations of a list are those of its parts,
joined at every cut.
-/
namespace ChomskyChart.Grammar

variable (g : Grammar)

/-- The cells of a piece are the same wherever the piece stands. -/
theorem cell_append (before piece after : List String) {start stop : Nat}
    (h : stop ≤ piece.length) :
    (g.chart (before ++ piece ++ after)).cell (before.length + start) (before.length + stop) =
      (g.chart piece).cell start stop := by
  have hlen : (before ++ piece ++ after).length =
      before.length + piece.length + after.length := by
    rw [List.length_append, List.length_append]
  -- by the width of the span: the cells beside a split are narrower
  induction hn : stop - start using Nat.strongRecOn generalizing start stop with
  | ind n ih =>
    rcases Nat.lt_trichotomy stop (start + 1) with hlt | rfl | hgt
    · rw [g.cell_of_le _ (by omega), g.cell_of_le _ (by omega)]
    · have hlt : before.length + start < (before ++ piece ++ after).length := by omega
      have htoken : (before ++ piece ++ after)[before.length + start] = piece[start] := by
        rw [List.getElem_append_left (by simp; omega), List.getElem_append_right (by omega)]
        simp
      rw [← Nat.add_assoc, g.cell_token _ hlt, g.cell_token _ h, htoken]
    · rw [g.cell_splits _ (by omega) (by omega), g.cell_splits _ hgt h]
      have hrange : List.range' (before.length + start + 1)
          (before.length + stop - (before.length + start) - 1) =
          (List.range' (start + 1) (stop - start - 1)).map (before.length + ·) := by
        rw [List.map_add_range']
        congr 1
        omega
      rw [hrange, List.flatMap_map]
      refine List.flatMap_congr fun split hs => ?_
      have hs := List.mem_range'_1.mp hs
      rw [ih (split - start) (by omega) (by omega) rfl, ih (stop - split) (by omega) h rfl]

/-- The derivations of a piece, read off the chart of a list that contains it. -/
theorem cell_piece (before piece after : List String) :
    (g.chart (before ++ piece ++ after)).cell before.length (before.length + piece.length) =
      g.parses piece := by
  rw [g.parses_eq_cell, ← g.cell_append before piece after (Nat.le_refl _), Nat.add_zero]

@[simp]
theorem parses_nil : g.parses [] = [] := by
  rw [g.parses_eq_cell]
  exact g.cell_of_le [] (Nat.le_refl 0)

theorem cell_eq_parses (tokens : List String) {start stop : Nat} (h : stop ≤ tokens.length) :
    (g.chart tokens).cell start stop = g.parses (tokens.extract start stop) := by
  rcases Nat.lt_or_ge start stop with hlt | hge
  · have hparts : tokens.take start ++ tokens.extract start stop ++ tokens.drop stop = tokens := by
      rw [List.extract_eq_take_drop, ← List.take_add, Nat.add_sub_cancel' (Nat.le_of_lt hlt),
        List.take_append_drop]
    have hstart : (tokens.take start).length = start := by
      rw [List.length_take]
      omega
    have hstop : start + (tokens.extract start stop).length = stop := by
      rw [List.extract_eq_take_drop, List.length_take, List.length_drop]
      omega
    have hpiece := g.cell_piece (tokens.take start) (tokens.extract start stop) (tokens.drop stop)
    rwa [hparts, hstart, hstop] at hpiece
  · have hnil : tokens.extract start stop = [] := by
      rw [List.extract_eq_take_drop, Nat.sub_eq_zero_of_le hge, List.take_zero]
    rw [g.cell_of_le _ hge, hnil, g.parses_nil]

/-- Locality, on the whole chart: a cell is what the tokens of its span derive alone, and a
piece of the tokens has the same cells in its own chart, shifted by its offset. -/
theorem cell_local (before piece after : List String) {start stop : Nat}
    (h : stop ≤ piece.length) :
    (g.chart piece).cell start stop = g.parses (piece.extract start stop) ∧
      (g.chart (before ++ piece ++ after)).cell (before.length + start) (before.length + stop) =
        (g.chart piece).cell start stop :=
  ⟨g.cell_eq_parses piece h, g.cell_append before piece after h⟩

theorem cell_local_inside :
    2 ≤ ["b", "b"].length ∧
      ((ofList [.terminal "S" ["b"]]).chart ["b", "b"]).cell 1 2 =
        (ofList [.terminal "S" ["b"]]).parses (["b", "b"].extract 1 2) ∧
      ((ofList [.terminal "S" ["b"]]).chart (["a"] ++ ["b", "b"] ++ ["c"])).cell
          (["a"].length + 1) (["a"].length + 2) =
        ((ofList [.terminal "S" ["b"]]).chart ["b", "b"]).cell 1 2 :=
  ⟨by decide, cell_local (ofList [.terminal "S" ["b"]]) ["a"] ["b", "b"] ["c"] (by decide)⟩

/-! ## Derivations by plain recursion -/

@[simp]
theorem parses_singleton (token : String) : g.parses [token] = g.seed token := by
  rw [g.parses_eq_cell]
  exact g.cell_token [token] (i := 0) Nat.zero_lt_one

/-- Two or more tokens are derived by what their parts derive, cut by cut. -/
theorem parses_cuts {tokens : List String} (h : 1 < tokens.length) :
    g.parses tokens = (cuts tokens).flatMap fun c => g.combine (g.parses c.1) (g.parses c.2) := by
  rw [g.parses_eq_cell, g.cell_splits tokens h (Nat.le_refl _), flatMap_cuts, Nat.sub_zero]
  refine List.flatMap_congr fun split hs => ?_
  have hs := List.mem_range'_1.mp hs
  have hback : (tokens.drop split).take (tokens.length - split) = tokens.drop split :=
    List.take_of_length_le (Nat.le_of_eq List.length_drop)
  rw [g.cell_eq_parses tokens (by omega), g.cell_eq_parses tokens (Nat.le_refl _),
    List.extract_eq_take_drop, List.extract_eq_take_drop, List.drop_zero, Nat.sub_zero, hback]

end ChomskyChart.Grammar
