import ChomskyChart.Proofs.Chart.Editing
import ChomskyChart.Proofs.Chart.Joining
import ChomskyChart.Proofs.Chart.Membership
import Mathlib.Algebra.BigOperators.Group.Finset.Basic
import Mathlib.Combinatorics.Enumerative.Catalan.Basic

/-!
# Counting derivations

How many trees with a key there are in a cell follows from such numbers for narrower spans, without
a look at the trees: a production for the key makes one branch of every tree of its left component
and every tree of its right one. For the most ambiguous grammar of one symbol and one token the
numbers are those of Catalan.
-/
namespace ChomskyChart

theorem sum_map_beq {α : Type} [DecidableEq α] (a : α) (bs : List α) :
    (bs.map fun b => if (a == b) = true then 1 else 0).sum = bs.count a := by
  induction bs with
  | nil => rfl
  | cons b bs ih =>
    rw [List.map_cons, List.sum_cons, ih, List.count_cons, Bool.beq_comm, Nat.add_comm]

/-- Two lists have as many pairs of equal elements, counted along the one or along the other. -/
theorem sum_map_count_comm {α : Type} [DecidableEq α] (as bs : List α) :
    (as.map fun a => bs.count a).sum = (bs.map fun b => as.count b).sum := by
  induction as with
  | nil => simp
  | cons a as ih =>
    simp only [List.count_cons]
    rw [List.map_cons, List.sum_cons, ih, List.sum_map_add, sum_map_beq, Nat.add_comm]

/-- The number of trees with a key. -/
def Cell.countKey (cell : Cell) (symbol : String) : Nat :=
  (cell.map Tree.key).count symbol

/-- The number of derivations of a span from a symbol. -/
def Chart.count (c : Chart) (start stop : Nat) (symbol : String) : Nat :=
  (c.cell start stop).countKey symbol

/-- The components of the productions for a symbol, a pair for each production. -/
def Grammar.pairsOf (g : Grammar) (symbol : String) : List Pair :=
  (g.toList.filter (·.key = symbol)).filterMap Production.components?

/-- The keys of every left tree and every right tree side by side. -/
def keyPairs (lefts rights : Cell) : List Pair :=
  lefts.flatMap fun left => rights.map fun right => ⟨left.key, right.key⟩

theorem keyPairs_eq_map_product (lefts rights : Cell) :
    keyPairs lefts rights = (lefts ×ˢ rights).map fun (left, right) => ⟨left.key, right.key⟩ := by
  simp only [keyPairs, SProd.sprod, List.product, List.map_flatMap, List.map_map, Function.comp_def]

namespace Cell

variable (lefts rights : Cell) (symbol : String)

theorem countKey_flatMap {α : Type} (l : List α) (f : α → Cell) :
    countKey (l.flatMap f) symbol = (l.map fun a => (f a).countKey symbol).sum := by
  rw [countKey, List.map_flatMap, List.count_flatMap]
  rfl

theorem countKey_cons (left : Tree) :
    countKey (left :: lefts) symbol =
      countKey lefts symbol + if left.key = symbol then 1 else 0 := by
  rw [countKey, List.map_cons, List.count_cons]
  simp [countKey]

/-- One left tree stands beside every tree with the right key, if it has the left key itself. -/
theorem count_map_pair (key : String) (pair : Pair) :
    (rights.map fun right => Pair.mk key right.key).count pair =
      if key = pair.left then rights.countKey pair.right else 0 := by
  obtain ⟨l, r⟩ := pair
  by_cases h : key = l
  · subst h
    have hinj : Function.Injective (Pair.mk key) := fun _ _ heq => (Pair.mk.inj heq).2
    rw [if_pos rfl, countKey, ← List.count_map_of_injective _ _ hinj, List.map_map]
    rfl
  · rw [if_neg h]
    refine List.count_eq_zero.mpr fun hmem => h ?_
    obtain ⟨right, _, heq⟩ := List.mem_map.mp hmem
    exact (Pair.mk.inj heq).1

/-- Every tree with the left key stands beside every tree with the right key. -/
theorem count_keyPairs (pair : Pair) :
    (keyPairs lefts rights).count pair =
      lefts.countKey pair.left * rights.countKey pair.right := by
  induction lefts with
  | nil => simp [keyPairs, countKey]
  | cons left lefts ih =>
    rw [keyPairs, List.flatMap_cons, List.count_append, count_map_pair, countKey_cons, Nat.add_mul,
      ← ih, keyPairs, Nat.add_comm]
    split <;> simp

end Cell

namespace Grammar

variable (g : Grammar) (lefts rights : Cell) (symbol : String)

/-- The productions for a symbol with these components. -/
theorem count_key_matchesPair (left right : String) :
    ((g.matchesPair left right).map (·.key)).count symbol =
      (g.pairsOf symbol).count ⟨left, right⟩ := by
  rw [matchesPair_eq, pairsOf]
  induction g.toList with
  | nil => rfl
  | cons p ps ih => grind

/-- A leaf for every terminal production of the symbol that lists the token. -/
theorem countKey_seed (token : String) :
    (g.seed token).countKey symbol =
      g.toList.countP fun p => p.isTerminal ∧ p.key = symbol ∧ token ∈ p.literals := by
  rw [Cell.countKey, seed, matchesLiteral_eq, List.map_map, List.count_eq_countP, List.countP_map,
    List.countP_filter]
  refine List.countP_congr fun p _ => ?_
  have hterminal : token ∈ p.literals → p.isTerminal := by
    intro h
    obtain ⟨key, literals, rfl, -⟩ := Production.mem_literals_iff.mp h
    rfl
  simp only [Function.comp_apply, Tree.key, Tree.production, Bool.and_eq_true, beq_iff_eq,
    decide_eq_true_eq]
  tauto

/-- A branch for every production of the symbol, tree of its left component and tree of its right
component. -/
theorem countKey_combine :
    (g.combine lefts rights).countKey symbol =
      ((g.pairsOf symbol).map fun pair =>
        lefts.countKey pair.left * rights.countKey pair.right).sum := by
  have hpairs : (g.combine lefts rights).countKey symbol =
      ((keyPairs lefts rights).map fun pair => (g.pairsOf symbol).count pair).sum := by
    rw [combine_eq_flatMap_product, Cell.countKey_flatMap, keyPairs_eq_map_product, List.map_map]
    congr 1
    refine List.map_congr_left fun (left, right) _ => ?_
    rw [Function.comp_apply, ← count_key_matchesPair, Cell.countKey, List.map_map]
    rfl
  rw [hpairs, sum_map_count_comm]
  simp only [Cell.count_keyPairs]

/-! ## The numbers of a chart -/

variable (tokens : List String)

theorem count_token {i : Nat} (h : i < tokens.length) :
    (g.chart tokens).count i (i + 1) symbol =
      g.toList.countP fun p => p.isTerminal ∧ p.key = symbol ∧ tokens[i] ∈ p.literals := by
  rw [Chart.count, cell_token g tokens h, countKey_seed]

/-- Derivations of a wider span are counted split by split. -/
theorem count_splits {start stop : Nat} (h : start + 2 ≤ stop) :
    (g.chart tokens).count start stop symbol =
      ∑ split ∈ Finset.Ioo start stop, ((g.pairsOf symbol).map fun pair =>
        (g.chart tokens).count start split pair.left *
          (g.chart tokens).count split stop pair.right).sum := by
  by_cases hle : stop ≤ tokens.length
  · have hsplits : Finset.Ioo start stop =
        (List.range' (start + 1) (stop - start - 1)).toFinset := by
      ext split
      rw [Finset.mem_Ioo, List.mem_toFinset, List.mem_range'_1]
      omega
    rw [Chart.count, cell_splits g tokens h hle, Cell.countKey_flatMap, hsplits,
      List.sum_toFinset _ List.nodup_range']
    simp only [countKey_combine, Chart.count]
  · -- beyond the tokens there is nothing to count on either side
    have hnone : ∀ split symbol, (g.chart tokens).count split stop symbol = 0 := by
      intro split symbol
      rw [Chart.count, cell_of_length_lt g tokens (by omega)]
      rfl
    simp [hnone]

/-- Every parse is counted under its key, and under this key only. -/
theorem length_parses :
    (g.parses tokens).length =
      (g.keys.map fun symbol => (g.chart tokens).count 0 tokens.length symbol).sum := by
  have hone : ∀ key ∈ (g.parses tokens).map Tree.key, g.keys.count key = 1 := by
    intro key hkey
    obtain ⟨t, ht, rfl⟩ := List.mem_map.mp hkey
    exact List.count_eq_one_of_mem g.nodup_keys (key_mem_keys_of_mem_parses ht)
  have hkeys : ((g.parses tokens).map Tree.key).map (fun key => g.keys.count key) =
      List.replicate (g.parses tokens).length 1 := by
    rw [List.map_congr_left hone, List.map_const', List.length_map]
  have hsum := sum_map_count_comm ((g.parses tokens).map Tree.key) g.keys
  rw [hkeys, List.sum_replicate, smul_eq_mul, Nat.mul_one, parses_eq_cell] at hsum
  rw [parses_eq_cell]
  exact hsum

/-! ## One symbol and one token -/

/-- The grammar of a symbol that becomes a token or itself twice. -/
def doubling (symbol token : String) : List Production :=
  [.nonterminal symbol symbol symbol, .terminal symbol [token]]

theorem pairsOf_doubling (symbol token : String) :
    (ofList (doubling symbol token)).pairsOf symbol = [⟨symbol, symbol⟩] := by
  simp [pairsOf, doubling, Production.nonterminal, Production.terminal, Production.components?]

theorem keys_doubling (symbol token : String) :
    (ofList (doubling symbol token)).keys = [symbol] := by
  simp [keys, doubling, Production.nonterminal, Production.terminal, List.eraseDups_cons]

/-- The splits of a span, told by the widths on both sides less one. -/
theorem sum_Ioo_eq_sum_antidiagonal (start width : Nat) (f : Nat → Nat → Nat) :
    ∑ split ∈ Finset.Ioo start (start + width + 2),
        f (split - start - 1) (start + width + 1 - split) =
      ∑ widths ∈ Finset.HasAntidiagonal.antidiagonal width, f widths.1 widths.2 := by
  refine Finset.sum_nbij' (fun split => (split - start - 1, start + width + 1 - split))
    (fun widths => start + widths.1 + 1) ?_ ?_ ?_ ?_ fun split _ => rfl
  · intro split hsplit
    rw [Finset.mem_Ioo] at hsplit
    rw [Finset.HasAntidiagonal.mem_antidiagonal]
    omega
  · intro widths hwidths
    rw [Finset.HasAntidiagonal.mem_antidiagonal] at hwidths
    rw [Finset.mem_Ioo]
    omega
  · intro split hsplit
    rw [Finset.mem_Ioo] at hsplit
    dsimp only
    omega
  · intro widths hwidths
    rw [Finset.HasAntidiagonal.mem_antidiagonal] at hwidths
    exact Prod.ext (by dsimp only; omega) (by dsimp only; omega)

/-- The symbol is doubled until it is there once for each token, in every way. -/
theorem count_doubling (symbol token : String) {n start width : Nat} (h : start + width < n) :
    ((ofList (doubling symbol token)).chart (List.replicate n token)).count start
      (start + width + 1) symbol = catalan width := by
  induction width using Nat.strong_induction_on generalizing start with
  | h width ih =>
    cases width with
    | zero =>
      have hlt : start < (List.replicate n token).length := by
        rw [List.length_replicate]
        omega
      rw [Nat.add_zero, count_token _ _ _ hlt, catalan_zero]
      simp [doubling, Production.nonterminal, Production.terminal, Production.isTerminal,
        Production.literals]
    | succ width =>
      rw [count_splits _ _ _ (by omega), catalan_succ', pairsOf_doubling,
        ← sum_Ioo_eq_sum_antidiagonal start width fun l r => catalan l * catalan r]
      refine Finset.sum_congr rfl fun split hsplit => ?_
      rw [Finset.mem_Ioo] at hsplit
      have hleft := @ih (split - start - 1) (by omega) start (by omega)
      have hright := @ih (start + width + 1 - split) (by omega) split (by omega)
      have hmeet : start + (split - start - 1) + 1 = split := by omega
      have hstop : split + (start + width + 1 - split) + 1 = start + (width + 1) + 1 := by omega
      rw [hmeet] at hleft
      rw [hstop] at hright
      rw [List.map_singleton, List.sum_singleton, hleft, hright]

/-- The order of the two productions does not matter to the number of parses. -/
theorem length_parses_doubling {symbol token : String} {ps : List Production}
    (h : ps.Perm (doubling symbol token)) (n : Nat) :
    ((ofList ps).parses (List.replicate (n + 1) token)).length = catalan n := by
  have hperm := (simulation_perm h).parses (List.forall₂_refl (List.replicate (n + 1) token))
  have hcount := @count_doubling symbol token (n + 1) 0 n (by omega)
  rw [Nat.zero_add] at hcount
  rw [hperm.length_eq, length_parses, keys_doubling, List.map_singleton, List.sum_singleton,
    List.length_replicate, hcount]

/-- Derivations are counted without being enumerated. A token is derived as often as there are
terminal productions that list it; a wider span as often as there are a split, a production with two
components, and derivations of both components on both sides of the split; and the parses are those
counted for the keys of the grammar. So a symbol that becomes a token or itself twice derives tokens
of this kind in as many ways as the Catalan numbers say. -/
theorem derivations_counted :
    (∀ (g : Grammar) (tokens : List String),
      (∀ (i : Nat) (_ : i < tokens.length) (symbol : String),
        (g.chart tokens).count i (i + 1) symbol =
          g.toList.countP fun p => p.isTerminal ∧ p.key = symbol ∧ tokens[i] ∈ p.literals) ∧
      (∀ (start stop : Nat) (symbol : String), start + 2 ≤ stop →
        (g.chart tokens).count start stop symbol =
          ∑ split ∈ Finset.Ioo start stop, ((g.pairsOf symbol).map fun pair =>
            (g.chart tokens).count start split pair.left *
              (g.chart tokens).count split stop pair.right).sum) ∧
      (g.parses tokens).length =
        (g.keys.map fun symbol => (g.chart tokens).count 0 tokens.length symbol).sum) ∧
    ∀ (symbol token : String) (ps : List Production),
      ps.Perm [.nonterminal symbol symbol symbol, .terminal symbol [token]] →
        ∀ n, ((ofList ps).parses (List.replicate (n + 1) token)).length = catalan n :=
  ⟨fun g tokens => ⟨fun _ h symbol => g.count_token symbol tokens h,
    fun _ _ symbol h => g.count_splits symbol tokens h, g.length_parses tokens⟩,
    fun _ _ _ h n => length_parses_doubling h n⟩

theorem derivations_counted_doubling :
    1 < ["b", "b", "b", "b"].length ∧ 0 + 2 ≤ 4 ∧
      [Production.terminal "S" ["b"], .nonterminal "S" "S" "S"].Perm
        [.nonterminal "S" "S" "S", .terminal "S" ["b"]] ∧
      ((ofList (doubling "S" "b")).chart ["b", "b", "b", "b"]).count 1 2 "S" =
        (ofList (doubling "S" "b")).toList.countP (fun p =>
          p.isTerminal ∧ p.key = "S" ∧ "b" ∈ p.literals) ∧
      ((ofList (doubling "S" "b")).chart ["b", "b", "b", "b"]).count 0 4 "S" =
        ∑ split ∈ Finset.Ioo 0 4, (((ofList (doubling "S" "b")).pairsOf "S").map fun pair =>
          ((ofList (doubling "S" "b")).chart ["b", "b", "b", "b"]).count 0 split pair.left *
            ((ofList (doubling "S" "b")).chart ["b", "b", "b", "b"]).count split 4
              pair.right).sum ∧
      ((ofList [.terminal "S" ["b"], .nonterminal "S" "S" "S"]).parses
        (List.replicate 4 "b")).length = catalan 3 :=
  have h := derivations_counted.1 (ofList (doubling "S" "b")) ["b", "b", "b", "b"]
  have hswap := List.Perm.swap (Production.nonterminal "S" "S" "S") (.terminal "S" ["b"]) []
  ⟨by decide, by decide, hswap, h.1 1 (by decide) "S", h.2.1 0 4 "S" (by decide),
    derivations_counted.2 "S" "b" _ hswap 3⟩

/-- Four tokens are put in pairs in five ways. -/
example : ((ofList (doubling "S" "b")).parses (List.replicate 4 "b")).length = 5 := by
  decide +kernel

end Grammar

end ChomskyChart
