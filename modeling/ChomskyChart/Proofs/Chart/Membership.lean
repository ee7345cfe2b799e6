import ChomskyChart.Proofs.Derivation.Enumeration
import ChomskyChart.Proofs.Grammar.Keys

/-!
# The trees of a cell

A tree of a cell has the tokens of the span at its leaves and stored productions at its nodes. A
branch is in a cell if its children are in two cells side by side that fill the span together, so
what holds of the cells of children passes to the cell of the branch.
-/
namespace ChomskyChart

theorem Derivation.Derives.production_mem {productions : List Production} {d : Derivation}
    {key : String} {tokens : List String} (h : d.Derives productions key tokens) :
    (d.tree productions).production ∈ productions := by
  cases h with
  | leaf stored =>
    rw [tree, productionAt_eq stored]
    exact List.mem_of_getElem? stored
  | branch stored =>
    rw [tree, productionAt_eq stored]
    exact List.mem_of_getElem? stored

namespace Grammar

variable {g : Grammar} {tokens : List String} {start stop : Nat} {t left right : Tree}
  {p : Production}

/-- Only a span of tokens has trees. -/
theorem bounds_of_mem_cell (h : t ∈ (g.chart tokens).cell start stop) :
    start < stop ∧ stop ≤ tokens.length := by
  rw [Chart.cell] at h
  split at h
  case isTrue hspan => exact hspan
  case isFalse => cases h

theorem exists_derives_of_mem_cell (h : t ∈ (g.chart tokens).cell start stop) :
    ∃ d : Derivation, d.Derives g.toList t.key (tokens.extract start stop) ∧
      d.tree g.toList = t := by
  obtain ⟨productions, rfl⟩ : ∃ productions, ofList productions = g := ⟨_, g.ofList_toList⟩
  rw [cell_eq_parses _ _ (bounds_of_mem_cell h).2] at h
  exact Derivation.mem_parses_iff.mp ⟨h, rfl⟩

/-- The leaves of a tree are the tokens of its span. -/
theorem tokens_of_mem_cell (h : t ∈ (g.chart tokens).cell start stop) :
    t.tokens = tokens.extract start stop := by
  obtain ⟨d, hd, rfl⟩ := exists_derives_of_mem_cell h
  exact hd.tokens_tree

/-- A span ends as many tokens behind its start as its trees have leaves. -/
theorem start_add_length_of_mem_cell (h : t ∈ (g.chart tokens).cell start stop) :
    start + t.tokens.length = stop := by
  have hbounds := bounds_of_mem_cell h
  rw [tokens_of_mem_cell h, List.extract_eq_take_drop, List.length_take, List.length_drop]
  omega

/-- A chart uses stored productions only. -/
theorem production_mem_of_mem_cell (h : t ∈ (g.chart tokens).cell start stop) :
    t.production ∈ g.toList := by
  obtain ⟨d, hd, rfl⟩ := exists_derives_of_mem_cell h
  exact hd.production_mem

theorem key_mem_keys_of_mem_cell (h : t ∈ (g.chart tokens).cell start stop) : t.key ∈ g.keys :=
  key_mem_keys (production_mem_of_mem_cell h)

theorem key_mem_keys_of_mem_parses (h : t ∈ g.parses tokens) : t.key ∈ g.keys := by
  rw [parses_eq_cell] at h
  exact key_mem_keys_of_mem_cell h

/-- A branch is in a cell if and only if its children meet at a place inside the span and its
production has their keys as components. -/
theorem branch_mem_cell_iff :
    .branch p left right ∈ (g.chart tokens).cell start stop ↔
      ∃ split, left ∈ (g.chart tokens).cell start split ∧
        right ∈ (g.chart tokens).cell split stop ∧ p ∈ g.matchesPair left.key right.key := by
  constructor
  · intro h
    obtain ⟨hlt, hle⟩ := bounds_of_mem_cell h
    rcases Nat.eq_or_lt_of_le (Nat.succ_le_of_lt hlt) with rfl | hwide
    · -- one token has leaves only
      rw [cell_token g tokens hle] at h
      obtain ⟨_, _, hleaf⟩ := mem_seed.mp h
      cases hleaf
    · rw [cell_splits g tokens hwide hle] at h
      obtain ⟨split, _, h⟩ := List.mem_flatMap.mp h
      obtain ⟨l, hl, r, hr, q, hq, hbranch⟩ := mem_combine.mp h
      cases hbranch
      exact ⟨split, hl, hr, hq⟩
  · intro h
    obtain ⟨split, hl, hr, hp⟩ := h
    have hlbounds := bounds_of_mem_cell hl
    have hrbounds := bounds_of_mem_cell hr
    rw [cell_splits g tokens (by omega) hrbounds.2]
    refine List.mem_flatMap.mpr ⟨split, List.mem_range'_1.mpr (by omega), ?_⟩
    exact mem_combine.mpr ⟨left, hl, right, hr, p, hp, rfl⟩

end Grammar

end ChomskyChart
