import ChomskyChart.Proofs.Builder.History
import ChomskyChart.Proofs.Derivation.Enumeration
import ChomskyChart.Proofs.Reading.Text

/-!
# No tree is derived twice

If no production is stored twice, a tree tells at every node the position of its production, so
different derivations have different trees and no cell holds a tree twice. A grammar that comes
from a builder or from a text has no two productions that are the same rule.
-/
namespace ChomskyChart

namespace Derivation

variable {productions : List Production} {d e : Derivation} {key key' : String}
  {tokens tokens' : List String}

theorem position_eq_of_productionAt_eq (h : productions.Nodup) {i j : Nat} {p q : Production}
    (hi : productions[i]? = some p) (hj : productions[j]? = some q)
    (heq : productionAt productions i = productionAt productions j) : i = j := by
  rw [productionAt_eq hi, productionAt_eq hj] at heq
  obtain ⟨hlt, -⟩ := List.getElem?_eq_some_iff.mp hi
  exact (List.getElem?_inj hlt h).mp (hi.trans (heq ▸ hj.symm))

/-- A tree has one derivation at most, if no production is stored twice. -/
theorem Derives.eq_of_tree_eq (h : productions.Nodup) (hd : d.Derives productions key tokens)
    (he : e.Derives productions key' tokens') (heq : d.tree productions = e.tree productions) :
    d = e := by
  induction hd generalizing e key' tokens' with
  | leaf stored listed =>
    cases he with
    | leaf stored' listed' =>
      obtain ⟨hproduction, rfl⟩ := Tree.leaf.inj heq
      rw [position_eq_of_productionAt_eq h stored stored' hproduction]
    | branch => cases heq
  | branch stored _ _ ihl ihr =>
    cases he with
    | leaf => cases heq
    | branch stored' onLeft' onRight' =>
      obtain ⟨hproduction, hleft, hright⟩ := Tree.branch.inj heq
      rw [position_eq_of_productionAt_eq h stored stored' hproduction, ihl onLeft' hleft,
        ihr onRight' hright]

theorem nodup_parses (h : productions.Nodup) (tokens : List String) :
    ((Grammar.ofList productions).parses tokens).Nodup := by
  rw [← map_tree_readings]
  refine (canonical_readings productions tokens).nodup.map_on fun d hd e he heq => ?_
  obtain ⟨_, hd⟩ := mem_readings_iff.mp hd
  obtain ⟨_, he⟩ := mem_readings_iff.mp he
  exact hd.eq_of_tree_eq h he heq

end Derivation

namespace Grammar

/-- A grammar that a builder gives after some run, or that is read from a text. -/
inductive Checked : Grammar → Prop
  | built (steps : List Builder.Step) {g : Grammar} (h : (Builder.run steps).grammar = .ok g) :
      Checked g
  | read (text : String) {g : Grammar} (h : ofText text = .ok g) : Checked g

theorem Checked.exists_distinctRules {g : Grammar} (h : g.Checked) :
    ∃ ps, DistinctRules ps ∧ ofList ps = g := by
  cases h with
  | built steps h =>
    rw [Builder.grammar_run] at h
    split at h
    · cases h
    · exact ⟨_, distinctRules_accepted _, Except.ok.inj h⟩
  | read text h =>
    obtain ⟨-, hdistinct, hg⟩ := build_eq_ok_iff.mp (ofRules_eq_ok_iff.mp h).2
    exact ⟨_, hdistinct, hg⟩

theorem Checked.nodup_toList {g : Grammar} (h : g.Checked) : g.toList.Nodup := by
  obtain ⟨ps, hdistinct, rfl⟩ := h.exists_distinctRules
  exact hdistinct.nodup

/-- The trees of a cell are pairwise different, and so are the parses of all tokens. -/
theorem nodup_cell {g : Grammar} (h : g.Checked) (tokens : List String) (start stop : Nat) :
    ((g.chart tokens).cell start stop).Nodup ∧ (g.parses tokens).Nodup := by
  obtain ⟨ps, hdistinct, rfl⟩ := h.exists_distinctRules
  refine ⟨?_, Derivation.nodup_parses hdistinct.nodup tokens⟩
  by_cases hstop : stop ≤ tokens.length
  · rw [cell_eq_parses _ _ hstop]
    exact Derivation.nodup_parses hdistinct.nodup _
  · have hbeyond : ¬ (start < stop ∧ stop ≤ ((ofList ps).chart tokens).length) := by
      intro hspan
      exact hstop hspan.2
    rw [Chart.cell, if_neg hbeyond]
    exact List.nodup_nil

/-- Steps that leave one rule for the token, although it is offered twice. -/
def refusing : List Builder.Step :=
  [.push (.nonterminal "S" "S" "S"), .tryPush (.terminal "S" ["b"]),
    .tryPush (.terminal "S" ["b", "b"])]

theorem nodup_cell_refusing :
    (ofList [.nonterminal "S" "S" "S", .terminal "S" ["b"]]).Checked ∧
      (((ofList [.nonterminal "S" "S" "S", .terminal "S" ["b"]]).chart ["a", "b", "b", "b"]).cell
        1 4).Nodup ∧
      ((ofList [.nonterminal "S" "S" "S", .terminal "S" ["b"]]).parses
        ["a", "b", "b", "b"]).Nodup :=
  have hchecked : (ofList [.nonterminal "S" "S" "S", .terminal "S" ["b"]]).Checked :=
    .built refusing rfl
  ⟨hchecked, nodup_cell hchecked ["a", "b", "b", "b"] 1 4⟩

end Grammar

end ChomskyChart
