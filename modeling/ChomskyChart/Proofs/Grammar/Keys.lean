import ChomskyChart.Grammar.Basic
import Mathlib.Data.List.Induction
import Mathlib.Data.List.Nodup

/-!
# The keys of a grammar

The keys are collected production by production, and a key that is there already is not taken
again. So every key that some production defines is listed once, and the keys come in the order in
which they are defined for the first time.
-/
namespace ChomskyChart.Grammar

variable {g : Grammar} {ps : List Production} {p : Production} {symbol : String}

/-- The position of the first production for a symbol, or the number of productions if there is
none. -/
def firstFor (g : Grammar) (symbol : String) : Nat :=
  g.toList.findIdx (·.key = symbol)

theorem mem_keys : symbol ∈ g.keys ↔ ∃ p ∈ g.toList, p.key = symbol := by
  rw [keys, List.mem_eraseDups, List.mem_map]

theorem key_mem_keys (h : p ∈ g.toList) : p.key ∈ g.keys :=
  mem_keys.mpr ⟨p, h, rfl⟩

/-- One more production adds its key behind the others, unless it is among them. -/
theorem keys_concat (ps : List Production) (p : Production) :
    (ofList (ps ++ [p])).keys =
      if p.key ∈ (ofList ps).keys then (ofList ps).keys else (ofList ps).keys ++ [p.key] := by
  have hnew : (ofList (ps ++ [p])).keys =
      (ofList ps).keys ++ ([p.key].removeAll (ps.map (·.key))).eraseDups := by
    rw [keys, toList_ofList, List.map_append, List.eraseDups_append]
    rfl
  have hmem : p.key ∈ (ofList ps).keys ↔ p.key ∈ ps.map (·.key) := List.mem_eraseDups
  rw [hnew, List.removeAll]
  by_cases h : p.key ∈ ps.map (·.key)
  · rw [if_pos (hmem.mpr h), List.filter_cons_of_neg (by simpa using h)]
    exact List.append_nil _
  · rw [if_neg (mt hmem.mp h), List.filter_cons_of_pos (by simpa using h)]
    rfl

theorem firstFor_lt_length (h : symbol ∈ (ofList ps).keys) :
    (ofList ps).firstFor symbol < ps.length := by
  obtain ⟨q, hq, hkey⟩ := mem_keys.mp h
  exact List.findIdx_lt_length_of_exists ⟨q, hq, decide_eq_true hkey⟩

/-- The first production for a symbol stays the first one when productions are added. -/
theorem firstFor_concat_of_mem (h : symbol ∈ (ofList ps).keys) (p : Production) :
    (ofList (ps ++ [p])).firstFor symbol = (ofList ps).firstFor symbol := by
  have hlt := firstFor_lt_length h
  rw [firstFor, toList_ofList] at hlt ⊢
  rw [firstFor, toList_ofList, List.findIdx_append, if_pos hlt]

theorem firstFor_concat_self (h : p.key ∉ (ofList ps).keys) :
    (ofList (ps ++ [p])).firstFor p.key = ps.length := by
  have hnone : ps.findIdx (·.key = p.key) = ps.length := by
    refine List.findIdx_eq_length_of_false fun q hq => decide_eq_false fun hkey => h ?_
    exact mem_keys.mpr ⟨q, hq, hkey⟩
  rw [firstFor, toList_ofList, List.findIdx_append, hnone, if_neg (Nat.lt_irrefl _)]
  simp

/-- The keys come in the order of their first definitions. -/
theorem pairwise_keys (g : Grammar) :
    g.keys.Pairwise fun k k' => g.firstFor k < g.firstFor k' := by
  obtain ⟨ps, rfl⟩ : ∃ ps, ofList ps = g := ⟨_, g.ofList_toList⟩
  -- production by production, from the first one on
  induction ps using List.reverseRecOn with
  | nil => exact .nil
  | append_singleton ps p ih =>
    have hold : (ofList ps).keys.Pairwise fun k k' =>
        (ofList (ps ++ [p])).firstFor k < (ofList (ps ++ [p])).firstFor k' := by
      refine ih.imp_of_mem fun hk hk' hlt => ?_
      rwa [firstFor_concat_of_mem hk, firstFor_concat_of_mem hk']
    rw [keys_concat]
    split
    case isTrue => exact hold
    case isFalse hnew =>
      refine List.pairwise_append.mpr ⟨hold, List.pairwise_singleton _ _, fun k hk k' hk' => ?_⟩
      obtain rfl := List.mem_singleton.mp hk'
      rw [firstFor_concat_of_mem hk, firstFor_concat_self hnew]
      exact firstFor_lt_length hk

/-- No key is listed twice. -/
theorem nodup_keys (g : Grammar) : g.keys.Nodup :=
  List.nodup_iff_pairwise_ne.mpr <| g.pairwise_keys.imp fun {k k'} hlt heq => by
    rw [heq] at hlt
    exact Nat.lt_irrefl _ hlt

end ChomskyChart.Grammar
