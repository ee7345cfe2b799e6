import ChomskyChart.Proofs.Builder.Acceptance
import ChomskyChart.Proofs.Chart.Simulation
import Mathlib.Data.List.Flatten
import Mathlib.Data.List.Perm.Basic

/-!
# Editing a grammar

What becomes of a chart when productions are added or put into another order. Added productions
add trees to a cell and leave the old ones in their order. Another order of the productions gives
every cell another order, and neither adds nor drops a tree.
-/
namespace ChomskyChart.Grammar

variable {ps qs : List Production} {lefts lefts' rights rights' : Cell}

/-! ## More productions -/

theorem matchesLiteral_sublist (h : ps.Sublist qs) (token : String) :
    ((ofList ps).matchesLiteral token).Sublist ((ofList qs).matchesLiteral token) := by
  rw [matchesLiteral_eq, matchesLiteral_eq]
  exact h.filter _

theorem matchesPair_sublist (h : ps.Sublist qs) (left right : String) :
    ((ofList ps).matchesPair left right).Sublist ((ofList qs).matchesPair left right) := by
  rw [matchesPair_eq, matchesPair_eq]
  exact h.filter _

/-- New trees on either side and new productions only put new branches between the old ones. -/
theorem combine_sublist (h : ps.Sublist qs) (hl : lefts.Sublist lefts')
    (hr : rights.Sublist rights') :
    ((ofList ps).combine lefts rights).Sublist ((ofList qs).combine lefts' rights') := by
  refine (hl.flatMap _).trans (.flatMap_right _ fun left _ => ?_)
  refine (hr.flatMap _).trans (.flatMap_right _ fun right _ => ?_)
  exact (matchesPair_sublist h left.key right.key).map _

theorem simulation_sublist (h : ps.Sublist qs) :
    Simulation (ofList ps) (ofList qs) (· = ·) List.Sublist where
  nil := .slnil
  append := .append
  seed {token token'} htoken := by
    subst htoken
    exact (matchesLiteral_sublist h token).map _
  combine := combine_sublist h

/-- Whatever productions are added, and wherever: the trees of a cell stay in their order, and so
do the parses and those with a target symbol. -/
theorem sublist_cell (h : ps.Sublist qs) (tokens : List String) (start stop : Nat) :
    (((ofList ps).chart tokens).cell start stop).Sublist
        (((ofList qs).chart tokens).cell start stop) ∧
      ((ofList ps).parses tokens).Sublist ((ofList qs).parses tokens) ∧
      ∀ targets, ((ofList ps).parsesMatching tokens targets).Sublist
        ((ofList qs).parsesMatching tokens targets) := by
  have sim := simulation_sublist h
  have hparses := sim.parses (List.forall₂_refl tokens)
  exact ⟨sim.cell (List.forall₂_refl tokens) start stop, hparses, fun _ => hparses.filter _⟩

/-- A grammar and an extension of it, with new productions before, between and after the old. -/
def plain : List Production := [.nonterminal "S" "S" "S", .terminal "S" ["a"]]

def extended : List Production :=
  [.terminal "S" ["b", "a"], .nonterminal "S" "S" "S", .nonterminal "T" "S" "S",
    .terminal "S" ["a"], .nonterminal "S" "S" "T"]

theorem sublist_cell_extended :
    plain.Sublist extended ∧
      (((ofList plain).chart ["b", "a", "a", "a"]).cell 1 4).Sublist
          (((ofList extended).chart ["b", "a", "a", "a"]).cell 1 4) ∧
        ((ofList plain).parses ["b", "a", "a", "a"]).Sublist
          ((ofList extended).parses ["b", "a", "a", "a"]) ∧
        ∀ targets, ((ofList plain).parsesMatching ["b", "a", "a", "a"] targets).Sublist
          ((ofList extended).parsesMatching ["b", "a", "a", "a"] targets) :=
  ⟨by decide, sublist_cell (by decide) ["b", "a", "a", "a"] 1 4⟩

/-! ## The same productions in another order -/

theorem matchesLiteral_perm (h : ps.Perm qs) (token : String) :
    ((ofList ps).matchesLiteral token).Perm ((ofList qs).matchesLiteral token) := by
  rw [matchesLiteral_eq, matchesLiteral_eq]
  exact h.filter _

theorem matchesPair_perm (h : ps.Perm qs) (left right : String) :
    ((ofList ps).matchesPair left right).Perm ((ofList qs).matchesPair left right) := by
  rw [matchesPair_eq, matchesPair_eq]
  exact h.filter _

theorem combine_perm (h : ps.Perm qs) (hl : lefts.Perm lefts') (hr : rights.Perm rights') :
    ((ofList ps).combine lefts rights).Perm ((ofList qs).combine lefts' rights') := by
  refine hl.flatMap fun left _ => hr.flatMap fun right _ => ?_
  exact (matchesPair_perm h left.key right.key).map _

theorem simulation_perm (h : ps.Perm qs) :
    Simulation (ofList ps) (ofList qs) (· = ·) List.Perm where
  nil := .nil
  append := .append
  seed {token token'} htoken := by
    subst htoken
    exact (matchesLiteral_perm h token).map _
  combine := combine_perm h

/-- A list of productions is accepted in every order or in none. -/
theorem exists_build_perm (h : ps.Perm qs) :
    (∃ g, build ps = .ok g) ↔ ∃ g, build qs = .ok g := by
  rw [exists_build_eq_ok_iff, exists_build_eq_ok_iff, distinctRules_iff_of_perm h]
  simp only [h.mem_iff]

/-- The order of the productions decides the order of the trees and of the matches, and nothing
else: not even whether a builder accepts them. -/
theorem perm_cell (h : ps.Perm qs) (tokens : List String) (start stop : Nat) :
    (((ofList ps).chart tokens).cell start stop).Perm
        (((ofList qs).chart tokens).cell start stop) ∧
      (∀ token, ((ofList ps).matchesLiteral token).Perm ((ofList qs).matchesLiteral token)) ∧
      (∀ left right, ((ofList ps).matchesPair left right).Perm
        ((ofList qs).matchesPair left right)) ∧
      ((∃ g, build ps = .ok g) ↔ ∃ g, build qs = .ok g) :=
  ⟨(simulation_perm h).cell (List.forall₂_refl tokens) start stop, matchesLiteral_perm h,
    matchesPair_perm h, exists_build_perm h⟩

theorem perm_cell_extended :
    extended.Perm extended.reverse ∧
      (((ofList extended).chart ["b", "a", "a", "a"]).cell 1 4).Perm
          (((ofList extended.reverse).chart ["b", "a", "a", "a"]).cell 1 4) ∧
        (∀ token, ((ofList extended).matchesLiteral token).Perm
          ((ofList extended.reverse).matchesLiteral token)) ∧
        (∀ left right, ((ofList extended).matchesPair left right).Perm
          ((ofList extended.reverse).matchesPair left right)) ∧
        ((∃ g, build extended = .ok g) ↔ ∃ g, build extended.reverse = .ok g) :=
  ⟨by decide, perm_cell (by decide) ["b", "a", "a", "a"] 1 4⟩

end ChomskyChart.Grammar
