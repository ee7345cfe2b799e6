import ChomskyChart.Proofs.Chart.Locality
import Mathlib.Data.List.Forall2
import Mathlib.Data.Set.Basic

/-!
# Two charts side by side

A relation between lists of trees passes from the seeds of two grammars to all their cells, if
joining related cells gives related cells. Every comparison of two charts is made through it: the
relation says what the cells have in common, and the rows are never looked at. In particular a change
of trees, node by node, that turns the matches of one grammar into those of another one turns the
cells of the one into the cells of the other.
-/
namespace ChomskyChart

/-- A relation between the cells of two grammars over tokens that correspond to each other. -/
structure Simulation (g g' : Grammar) (corresponds : String → String → Prop)
    (related : Cell → Cell → Prop) : Prop where
  nil : related [] []
  append : ∀ {cell cell' more more' : Cell}, related cell cell' → related more more' →
    related (cell ++ more) (cell' ++ more')
  seed : ∀ {token token' : String}, corresponds token token' →
    related (g.seed token) (g'.seed token')
  combine : ∀ {lefts lefts' rights rights' : Cell}, related lefts lefts' → related rights rights' →
    related (g.combine lefts rights) (g'.combine lefts' rights')

namespace Simulation

variable {g g' : Grammar} {corresponds : String → String → Prop} {related : Cell → Cell → Prop}
  {tokens tokens' : List String}

theorem flatMap {α : Type} (sim : Simulation g g' corresponds related) {l : List α}
    {f f' : α → Cell} (h : ∀ a ∈ l, related (f a) (f' a)) :
    related (l.flatMap f) (l.flatMap f') := by
  induction l with
  | nil => exact sim.nil
  | cons a l ih =>
    obtain ⟨ha, hl⟩ := List.forall_mem_cons.mp h
    rw [List.flatMap_cons, List.flatMap_cons]
    exact sim.append ha (ih hl)

/-- Tokens that correspond to each other have related derivations. -/
theorem parses (sim : Simulation g g' corresponds related)
    (h : List.Forall₂ corresponds tokens tokens') :
    related (g.parses tokens) (g'.parses tokens') := by
  induction tokens using cuts_induction generalizing tokens' with
  | nil =>
    cases h
    rw [g.parses_nil, g'.parses_nil]
    exact sim.nil
  | singleton token =>
    cases h with
    | cons htoken hrest =>
      cases hrest
      rw [g.parses_singleton, g'.parses_singleton]
      exact sim.seed htoken
  | cut tokens hlong ih =>
    -- both lists are cut at the same places
    have hlength := h.length_eq
    rw [g.parses_cuts hlong, g'.parses_cuts (hlength ▸ hlong), flatMap_cuts, flatMap_cuts,
      ← hlength]
    refine sim.flatMap fun split hsplit => ?_
    obtain ⟨hfront, hback⟩ := ih _ _ (take_drop_mem_cuts hsplit)
    exact sim.combine (hfront (List.forall₂_take split h)) (hback (List.forall₂_drop split h))

theorem cell (sim : Simulation g g' corresponds related)
    (h : List.Forall₂ corresponds tokens tokens') (start stop : Nat) :
    related ((g.chart tokens).cell start stop) ((g'.chart tokens').cell start stop) := by
  have hlength := h.length_eq
  by_cases hstop : stop ≤ tokens.length
  · rw [g.cell_eq_parses tokens hstop, g'.cell_eq_parses tokens' (hlength ▸ hstop),
      List.extract_eq_take_drop, List.extract_eq_take_drop]
    exact sim.parses (List.forall₂_take _ (List.forall₂_drop _ h))
  · rw [g.cell_of_length_lt tokens (by omega), g'.cell_of_length_lt tokens' (by omega)]
    exact sim.nil

end Simulation

/-- Joining changed trees is changing joined trees, for a change that goes down a tree node by
node and keeps the matches of the keys. -/
theorem Grammar.map_combine {g g' : Grammar} {change : Tree → Tree}
    {changeProduction : Production → Production} {lefts rights : Cell}
    (hbranch : ∀ p left right, change (.branch p left right) =
      .branch (changeProduction p) (change left) (change right))
    (hpair : ∀ left ∈ lefts, ∀ right ∈ rights, g'.matchesPair (change left).key (change right).key =
      (g.matchesPair left.key right.key).map changeProduction) :
    (g.combine lefts rights).map change = g'.combine (lefts.map change) (rights.map change) := by
  rw [combine, combine, List.map_flatMap, List.flatMap_map]
  refine List.flatMap_congr fun left hleft => ?_
  rw [List.map_flatMap, List.flatMap_map]
  refine List.flatMap_congr fun right hright => ?_
  rw [hpair left hleft right hright, List.map_map, List.map_map]
  exact List.map_congr_left fun p _ => hbranch p left right

/-- The same for a change that keeps productions and keys: trees are joined by their keys. -/
theorem Grammar.map_combine_of_key (g : Grammar) {change : Tree → Tree}
    (hbranch : ∀ p left right, change (.branch p left right) =
      .branch p (change left) (change right))
    (hkey : ∀ t, (change t).key = t.key) (lefts rights : Cell) :
    (g.combine lefts rights).map change = g.combine (lefts.map change) (rights.map change) := by
  refine map_combine hbranch fun left _ right _ => ?_
  rw [hkey, hkey, List.map_id']

/-- A change of trees, node by node, that turns the matches of one grammar into those of another one.
It has to do so for the keys only that trees of the first grammar have. -/
structure Translation (g g' : Grammar) (corresponds : String → String → Prop) (keys : Set String)
    (change : Tree → Tree) (changeKey : String → String)
    (changeProduction : Production → Production) : Prop where
  leaf : ∀ (p : Production) {token token' : String}, corresponds token token' →
    change (.leaf p token) = .leaf (changeProduction p) token'
  branch : ∀ (p : Production) (left right : Tree), change (.branch p left right) =
    .branch (changeProduction p) (change left) (change right)
  key : ∀ t : Tree, (change t).key = changeKey t.key
  matchesLiteral : ∀ {token token' : String}, corresponds token token' →
    g'.matchesLiteral token' = (g.matchesLiteral token).map changeProduction
  matchesPair : ∀ {left right : String}, left ∈ keys → right ∈ keys →
    g'.matchesPair (changeKey left) (changeKey right) =
      (g.matchesPair left right).map changeProduction
  key_of_literal : ∀ {token : String}, ∀ p ∈ g.matchesLiteral token, p.key ∈ keys
  key_of_pair : ∀ {left right : String}, left ∈ keys → right ∈ keys →
    ∀ p ∈ g.matchesPair left right, p.key ∈ keys

/-- A cell of the second grammar is the changed cell of the first one. -/
theorem Translation.simulation {g g' : Grammar} {corresponds : String → String → Prop}
    {keys : Set String} {change : Tree → Tree} {changeKey : String → String}
    {changeProduction : Production → Production}
    (translation : Translation g g' corresponds keys change changeKey changeProduction) :
    Simulation g g' corresponds
      fun cell cell' => cell.map change = cell' ∧ ∀ t ∈ cell, t.key ∈ keys where
  nil := ⟨rfl, by simp⟩
  append hcell hmore := by
    obtain ⟨rfl, hkeys⟩ := hcell
    obtain ⟨rfl, hkeys'⟩ := hmore
    exact ⟨List.map_append, List.forall_mem_append.mpr ⟨hkeys, hkeys'⟩⟩
  seed htoken := by
    constructor
    · rw [Grammar.seed, Grammar.seed, translation.matchesLiteral htoken, List.map_map, List.map_map]
      exact List.map_congr_left fun p _ => translation.leaf p htoken
    · intro t ht
      obtain ⟨p, hp, rfl⟩ := Grammar.mem_seed.mp ht
      exact translation.key_of_literal p hp
  combine hlefts hrights := by
    obtain ⟨rfl, hlkeys⟩ := hlefts
    obtain ⟨rfl, hrkeys⟩ := hrights
    constructor
    · refine Grammar.map_combine translation.branch fun left hleft right hright => ?_
      rw [translation.key, translation.key,
        translation.matchesPair (hlkeys left hleft) (hrkeys right hright)]
    · intro t ht
      obtain ⟨left, hleft, right, hright, p, hp, rfl⟩ := Grammar.mem_combine.mp ht
      exact translation.key_of_pair (hlkeys left hleft) (hrkeys right hright) p hp

end ChomskyChart
