import ChomskyChart.Proofs.Derivation.Enumeration
import Mathlib.Data.List.Forall2

/-!
# Interchangeable productions

Two productions are the same rule if and only if they have the same key and match alike, each in a
grammar of its own. Such productions may take each other's place in every list: look-ups find the
same positions, so a chart has the same derivations in the same order, and only the trees show which
of the productions stands at a position.
-/
namespace ChomskyChart

variable {p q : Production}

namespace Production

theorem equivalence_sameRule : Equivalence SameRule := ⟨.refl, .symm, .trans⟩

/-- The same rules have the same literals, listed in whatever way, and the same components. -/
theorem sameRule_iff :
    p.SameRule q ↔ p.key = q.key ∧ (∀ token, token ∈ p.literals ↔ token ∈ q.literals) ∧
      p.components? = q.components? := by
  obtain ⟨key, body⟩ := p
  obtain ⟨key', body'⟩ := q
  cases body with
  | terminal literals =>
    cases body' with
    | terminal literals' =>
      simp [SameRule, Body.Same, Production.literals, components?, List.subset_def,
        iff_iff_implies_and_implies, forall_and]
    | nonterminal => simp [SameRule, Body.Same, components?]
  | nonterminal left right =>
    cases body' with
    | terminal => simp [SameRule, Body.Same, components?]
    | nonterminal => simp [SameRule, Body.Same, Production.literals, components?]

/-- Alone in a grammar, the productions have a match for the same tokens and for the same pairs. -/
structure AnswersAlike (p q : Production) : Prop where
  literal : ∀ token : String, (Grammar.ofList [p]).matchesLiteral token = [] ↔
    (Grammar.ofList [q]).matchesLiteral token = []
  pair : ∀ left right : String, (Grammar.ofList [p]).matchesPair left right = [] ↔
    (Grammar.ofList [q]).matchesPair left right = []

theorem matchesLiteral_singleton_eq_nil_iff {token : String} :
    (Grammar.ofList [p]).matchesLiteral token = [] ↔ token ∉ p.literals := by
  simp [Grammar.matchesLiteral_eq]

theorem matchesPair_singleton_eq_nil_iff {left right : String} :
    (Grammar.ofList [p]).matchesPair left right = [] ↔ p.components? ≠ some ⟨left, right⟩ := by
  simp [Grammar.matchesPair_eq]

theorem answersAlike_iff :
    p.AnswersAlike q ↔ (∀ token, token ∈ p.literals ↔ token ∈ q.literals) ∧
      p.components? = q.components? := by
  constructor
  · intro h
    refine ⟨fun token => ?_, Option.ext fun ⟨left, right⟩ => ?_⟩
    · have hliteral := h.literal token
      rwa [matchesLiteral_singleton_eq_nil_iff, matchesLiteral_singleton_eq_nil_iff, not_iff_not]
        at hliteral
    · have hpair := h.pair left right
      rwa [matchesPair_singleton_eq_nil_iff, matchesPair_singleton_eq_nil_iff, not_iff_not] at hpair
  · intro h
    obtain ⟨hliterals, hcomponents⟩ := h
    constructor
    · intro token
      rw [matchesLiteral_singleton_eq_nil_iff, matchesLiteral_singleton_eq_nil_iff, hliterals]
    · intro left right
      rw [matchesPair_singleton_eq_nil_iff, matchesPair_singleton_eq_nil_iff, hcomponents]

end Production

/-! ## Lists of the same rules -/

section SameRules

variable {ps qs : List Production} (h : List.Forall₂ Production.SameRule ps qs)
include h

/-- A property that the same rules share has the same positions in both lists. -/
theorem findIdxs_eq_of_sameRules (here : Production → Bool)
    (hhere : ∀ p q, p.SameRule q → here p = here q) : ps.findIdxs here = qs.findIdxs here := by
  induction h with
  | nil => rfl
  | cons hpq _ ih =>
    rw [List.findIdxs_cons, List.findIdxs_cons, List.findIdxs_start, ih, ← List.findIdxs_start,
      hhere _ _ hpq]

theorem key_productionAt_of_sameRules (position : Nat) :
    (productionAt ps position).key = (productionAt qs position).key := by
  induction h generalizing position with
  | nil => rfl
  | cons hpq _ ih =>
    cases position with
    | zero => exact hpq.1
    | succ position => exact ih position

namespace Derivation

theorem key_tree_of_sameRules (d : Derivation) : (d.tree ps).key = (d.tree qs).key := by
  cases d with
  | leaf position token => exact key_productionAt_of_sameRules h position
  | branch position left right => exact key_productionAt_of_sameRules h position

theorem leaves_of_sameRules (token : String) : leaves ps token = leaves qs token := by
  have hpositions := findIdxs_eq_of_sameRules h (token ∈ ·.literals) fun p q hpq =>
    decide_eq_decide.mpr ((Production.sameRule_iff.mp hpq).2.1 token)
  rw [leaves, leaves, hpositions]

theorem branches_of_sameRules (left right : Derivation) :
    branches ps left right = branches qs left right := by
  have hpositions := findIdxs_eq_of_sameRules h
    (·.components? = some ⟨(left.tree qs).key, (right.tree qs).key⟩) fun p q hpq => by
      rw [(Production.sameRule_iff.mp hpq).2.2]
  rw [branches, branches, key_tree_of_sameRules h, key_tree_of_sameRules h, hpositions]

theorem readings_of_sameRules (tokens : List String) : readings ps tokens = readings qs tokens := by
  induction tokens using cuts_induction with
  | nil => rw [readings_nil, readings_nil]
  | singleton token => rw [readings_singleton, readings_singleton, leaves_of_sameRules h]
  | cut tokens hlong ih =>
    rw [readings_cuts ps hlong, readings_cuts qs hlong]
    refine List.flatMap_congr fun ⟨front, back⟩ hcut => ?_
    obtain ⟨hfront, hback⟩ := ih front back hcut
    rw [combine, combine, hfront, hback]
    simp only [branches_of_sameRules h]

end Derivation

end SameRules

/-! ## Another production at a position -/

section Position

variable {productions : List Production} {position : Nat}

theorem forall₂_sameRule_set (hp : productions[position]? = some p) (h : p.SameRule q) :
    List.Forall₂ Production.SameRule productions (productions.set position q) := by
  induction productions generalizing position with
  | nil => exact .nil
  | cons r rest ih =>
    cases position with
    | zero =>
      obtain rfl : r = p := by simpa using hp
      exact .cons h (List.forall₂_same.mpr fun r _ => .refl r)
    | succ position => exact .cons (.refl r) (ih (by simpa using hp))

theorem productionAt_set (hp : productions[position]? = some p) (i : Nat) :
    productionAt (productions.set position q) i =
      if i = position then q else productionAt productions i := by
  obtain ⟨hlt, -⟩ := List.getElem?_eq_some_iff.mp hp
  rw [productionAt, productionAt, List.getD_eq_getElem?_getD, List.getD_eq_getElem?_getD,
    List.getElem?_set]
  by_cases hi : i = position
  · subst hi
    simp [hlt]
  · simp [hi, Ne.symm hi]

end Position

/-- Being the same rule is an equivalence, and it is to have the same key and to match alike. A
production may be replaced by the same rule at any position of any list: the cells of every chart
show the same derivations in the same order, which are all derivations of their span, with the other
production at the nodes of that position and with the old ones at all others. -/
theorem Grammar.sameRule_interchangeable :
    Equivalence Production.SameRule ∧
      (∀ p q : Production, p.SameRule q ↔ p.key = q.key ∧ p.AnswersAlike q) ∧
      ∀ (p q : Production) (productions : List Production) (position : Nat), p.SameRule q →
        productions[position]? = some p →
        (∀ i, productionAt (productions.set position q) i =
          if i = position then q else productionAt productions i) ∧
        ∀ (tokens : List String) (start stop : Nat), ∃ ds : List Derivation,
          (stop ≤ tokens.length →
            Derivation.Canonical productions (tokens.extract start stop) ds ∧
              Derivation.Canonical (productions.set position q) (tokens.extract start stop) ds) ∧
          ((ofList productions).chart tokens).cell start stop =
            ds.map (Derivation.tree productions) ∧
          ((ofList (productions.set position q)).chart tokens).cell start stop =
            ds.map (Derivation.tree (productions.set position q)) := by
  refine ⟨Production.equivalence_sameRule, fun p q => ?_, ?_⟩
  · rw [Production.sameRule_iff, Production.answersAlike_iff]
  · intro p q productions position hsame hp
    refine ⟨productionAt_set hp, fun tokens start stop => ?_⟩
    by_cases hstop : stop ≤ tokens.length
    · have hreadings := Derivation.readings_of_sameRules (forall₂_sameRule_set hp hsame)
        (tokens.extract start stop)
      have hcanonical := Derivation.canonical_readings productions (tokens.extract start stop)
      have hcanonical' :=
        Derivation.canonical_readings (productions.set position q) (tokens.extract start stop)
      rw [← hreadings] at hcanonical'
      refine ⟨_, fun _ => ⟨hcanonical, hcanonical'⟩,
        Derivation.cell_eq_map_tree productions tokens hstop, ?_⟩
      rw [hreadings, Derivation.cell_eq_map_tree _ tokens hstop]
    · refine ⟨[], fun h => absurd h hstop, ?_, ?_⟩
      · rw [cell_of_length_lt _ tokens (by omega), List.map_nil]
      · rw [cell_of_length_lt _ tokens (by omega), List.map_nil]

/-- The literals are listed in another way at the nodes of the first of two equal productions. -/
example :
    ((Grammar.ofList ([.terminal "S" ["a", "b"], .terminal "S" ["a", "b"]].set 0
      (.terminal "S" ["b", "a", "a"]))).chart ["a"]).cell 0 1 =
      [.leaf (.terminal "S" ["b", "a", "a"]) "a", .leaf (.terminal "S" ["a", "b"]) "a"] := by
  decide +kernel

end ChomskyChart
