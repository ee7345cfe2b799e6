import ChomskyChart.Proofs.Chart.Equations

/-!
# The equations have one solution

Filling a chart row by row, each cell once, gives the table that plain recursion gives, in which a
span is derived anew wherever it is asked for. Both solve the equations between spans, and these
leave no choice: by the width of the span they determine every cell.
-/
namespace ChomskyChart.Grammar

variable (g : Grammar) (tokens : List String)

/-- The equations between the spans of some tokens: a span of one token is seeded, a wider one joins
what both sides of every split derive, from the leftmost split to the rightmost one. -/
structure Solves (table : Nat → Nat → Cell) : Prop where
  token : ∀ (i : Nat) (h : i < tokens.length), table i (i + 1) = g.seed tokens[i]
  splits : ∀ start stop : Nat, 2 ≤ stop - start → stop ≤ tokens.length →
    table start stop =
      (List.range' (start + 1) (stop - start - 1)).flatMap fun split =>
        g.combine (table start split) (table split stop)

/-- The derivations of a span by plain recursion on its splits. -/
def plainCell (start stop : Nat) : Cell :=
  if stop = start + 1 then (tokens[start]?.map g.seed).getD []
  else
    (List.range' (start + 1) (stop - start - 1)).attach.flatMap fun ⟨split, _h⟩ =>
      g.combine (plainCell start split) (plainCell split stop)
termination_by stop - start
decreasing_by
  all_goals
    have hsplit := List.mem_range'_1.mp _h
    omega

variable {g tokens} {start stop : Nat}

theorem plainCell_token (i : Nat) :
    g.plainCell tokens i (i + 1) = (tokens[i]?.map g.seed).getD [] := by
  rw [plainCell, if_pos rfl]

theorem plainCell_splits (h : stop ≠ start + 1) :
    g.plainCell tokens start stop =
      (List.range' (start + 1) (stop - start - 1)).flatMap fun split =>
        g.combine (g.plainCell tokens start split) (g.plainCell tokens split stop) := by
  rw [plainCell, if_neg h]
  conv_rhs => rw [← List.attach_map_subtype_val (List.range' _ _), List.flatMap_map]

theorem solves_cell : g.Solves tokens (g.chart tokens).cell where
  token _ h := g.cell_token tokens h
  splits _ _ hwide hle := g.cell_splits tokens (by omega) hle

theorem solves_plainCell : g.Solves tokens (g.plainCell tokens) where
  token i h := by
    rw [plainCell_token, List.getElem?_eq_getElem h]
    rfl
  splits _ _ hwide _ := plainCell_splits (by omega)

/-- The equations determine the cell of every span: both sides of a split are narrower. -/
theorem Solves.eq {table table' : Nat → Nat → Cell} (h : g.Solves tokens table)
    (h' : g.Solves tokens table') (hlt : start < stop) (hle : stop ≤ tokens.length) :
    table start stop = table' start stop := by
  induction hn : stop - start using Nat.strongRecOn generalizing start stop with
  | ind n ih =>
    rcases Nat.eq_or_lt_of_le hlt with rfl | hwide
    · rw [h.token start hle, h'.token start hle]
    · rw [h.splits start stop (by omega) hle, h'.splits start stop (by omega) hle]
      refine List.flatMap_congr fun split hsplit => ?_
      have hsplit := List.mem_range'_1.mp hsplit
      rw [ih (split - start) (by omega) (by omega) (by omega) rfl,
        ih (stop - split) (by omega) (by omega) hle rfl]

/-- Recursion finds nothing in a span without tokens. -/
theorem plainCell_of_le (h : stop ≤ start) : g.plainCell tokens start stop = [] := by
  have hempty : stop - start - 1 = 0 := by omega
  rw [plainCell_splits (by omega), hempty]
  rfl

/-- Recursion finds nothing in a span that reaches beyond the tokens. -/
theorem plainCell_of_length_lt (h : tokens.length < stop) :
    g.plainCell tokens start stop = [] := by
  induction hn : stop - start using Nat.strongRecOn generalizing start with
  | ind n ih =>
    by_cases hone : stop = start + 1
    · rw [hone, plainCell_token, List.getElem?_eq_none (by omega)]
      rfl
    -- what is behind a split reaches as far as the span, and is narrower
    · rw [plainCell_splits hone, List.flatMap_eq_nil_iff]
      intro split hsplit
      have hsplit := List.mem_range'_1.mp hsplit
      rw [ih (stop - split) (by omega) rfl, combine]
      exact List.flatMap_eq_nil_iff.mpr fun _ _ => rfl

theorem cell_eq_plainCell (start stop : Nat) :
    (g.chart tokens).cell start stop = g.plainCell tokens start stop := by
  rcases Nat.lt_or_ge start stop with hlt | hge
  · by_cases hle : stop ≤ tokens.length
    · exact solves_cell.eq solves_plainCell hlt hle
    · rw [g.cell_of_length_lt tokens (by omega), plainCell_of_length_lt (by omega)]
  · rw [g.cell_of_le tokens hge, plainCell_of_le hge]

/-- The chart of some tokens solves the equations between their spans, every table that solves them
has its cells, and it is the table that plain recursion gives, also for spans without tokens and
beyond them. -/
theorem cell_unique_solution (g : Grammar) (tokens : List String) :
    g.Solves tokens (g.chart tokens).cell ∧
      (∀ table, g.Solves tokens table → ∀ start stop, start < stop → stop ≤ tokens.length →
        table start stop = (g.chart tokens).cell start stop) ∧
      ∀ start stop, (g.chart tokens).cell start stop = g.plainCell tokens start stop :=
  ⟨solves_cell, fun _ h _ _ hlt hle => h.eq solves_cell hlt hle, cell_eq_plainCell⟩

end ChomskyChart.Grammar
