import ChomskyChart.Proofs.Chart.Membership

/-!
# Parses with target symbols

Targets select parses by the symbol at the root. One target after the other selects each parse at
most once, so the parses of single targets make up those of all of them, in another order. The keys
of the grammar are the symbols that can be at a root, so as targets they select every parse.
-/
namespace ChomskyChart

/-- What a list holds for each of some different keys, one key after the other, is what it holds for
all of them. -/
theorem flatMap_filter_perm {α κ : Type} [DecidableEq κ] (key : α → κ) (l : List α)
    {targets : List κ} (h : targets.Nodup) :
    (targets.flatMap fun k => l.filter (key · = k)).Perm (l.filter (key · ∈ targets)) := by
  induction targets with
  | nil => simp
  | cons k targets ih =>
    obtain ⟨hk, hrest⟩ := List.nodup_cons.mp h
    have hfirst : (l.filter (key · ∈ k :: targets)).filter (key · = k) =
        l.filter (key · = k) := by
      rw [List.filter_filter]
      refine List.filter_congr fun a _ => ?_
      by_cases ha : key a = k <;> simp [ha]
    -- what is left over has one of the other targets, for `k` is not among them
    have hothers : (l.filter (key · ∈ k :: targets)).filter (! key · = k) =
        l.filter (key · ∈ targets) := by
      rw [List.filter_filter]
      refine List.filter_congr fun a _ => ?_
      by_cases ha : key a = k
      · simp [ha, hk]
      · simp [ha]
    rw [List.flatMap_cons]
    refine ((ih hrest).append_left _).trans ?_
    rw [← hfirst, ← hothers]
    exact List.filter_append_perm _ _

namespace Grammar

variable (g : Grammar) (tokens : List String)

/-- The parses for a list of targets are settled by the keys of parses among them. -/
theorem parsesMatching_congr {targets targets' : List String}
    (h : ∀ t ∈ g.parses tokens, t.key ∈ targets ↔ t.key ∈ targets') :
    g.parsesMatching tokens targets = g.parsesMatching tokens targets' :=
  List.filter_congr fun t ht => decide_eq_decide.mpr (h t ht)

theorem count_parsesMatching (targets : List String) (t : Tree) :
    (g.parsesMatching tokens targets).count t =
      if t.key ∈ targets then (g.parses tokens).count t else 0 := by
  split
  case isTrue h => exact List.count_filter (decide_eq_true h)
  case isFalse h =>
    refine List.count_eq_zero.mpr fun ht => h ?_
    exact of_decide_eq_true (List.mem_filter.mp ht).2

theorem flatMap_parsesMatching_perm {targets : List String} (h : targets.Nodup) :
    (targets.flatMap fun k => g.parsesMatching tokens [k]).Perm
      (g.parsesMatching tokens targets) := by
  have hsingle : ∀ k, g.parsesMatching tokens [k] = (g.parses tokens).filter (·.key = k) := by
    intro k
    exact List.filter_congr fun t _ => decide_eq_decide.mpr List.mem_singleton
  simp only [hsingle]
  exact flatMap_filter_perm Tree.key (g.parses tokens) h

/-- Every parse has a key of the grammar at its root. -/
theorem parsesMatching_keys : g.parsesMatching tokens g.keys = g.parses tokens :=
  List.filter_eq_self.mpr fun _ ht => decide_eq_true (key_mem_keys_of_mem_parses ht)

theorem parsesMatching_cons_of_notMem {symbol : String} (h : symbol ∉ g.keys)
    (targets : List String) :
    g.parsesMatching tokens (symbol :: targets) = g.parsesMatching tokens targets := by
  refine g.parsesMatching_congr tokens fun t ht => ?_
  have hne : t.key ≠ symbol := fun heq => h (heq ▸ key_mem_keys_of_mem_parses ht)
  simp [hne]

/-- Targets are a set, and they split up the parses. Which targets there are decides which parses
are kept; those that are kept stay in their order, and as many times as they were there. The parses
for different targets, one target after the other, are the parses for all of them. The keys of the
grammar are the keys of its productions, each once and in the order of the first definitions; they
are all that can be at a root, so they keep every parse, and any other target keeps none. -/
theorem targets_partition :
    (∀ targets targets' : List String, (∀ symbol, symbol ∈ targets ↔ symbol ∈ targets') →
      g.parsesMatching tokens targets = g.parsesMatching tokens targets') ∧
    (∀ targets, (g.parsesMatching tokens targets).Sublist (g.parses tokens) ∧
      ∀ t, (g.parsesMatching tokens targets).count t =
        if t.key ∈ targets then (g.parses tokens).count t else 0) ∧
    (∀ targets : List String, targets.Nodup →
      (targets.flatMap fun symbol => g.parsesMatching tokens [symbol]).Perm
        (g.parsesMatching tokens targets)) ∧
    ((∀ t ∈ g.parses tokens, t.key ∈ g.keys) ∧
      (∀ symbol, symbol ∈ g.keys ↔ ∃ p ∈ g.toList, p.key = symbol) ∧
      g.keys.Nodup ∧
      g.keys.Pairwise fun symbol symbol' => g.firstFor symbol < g.firstFor symbol') ∧
    (g.parsesMatching tokens g.keys = g.parses tokens ∧
      ∀ symbol ∉ g.keys, g.parsesMatching tokens [symbol] = [] ∧
        ∀ targets, g.parsesMatching tokens (symbol :: targets) =
          g.parsesMatching tokens targets) := by
  refine ⟨fun targets targets' h => ?_, fun targets => ⟨List.filter_sublist, ?_⟩,
    fun targets => g.flatMap_parsesMatching_perm tokens,
    ⟨fun t => key_mem_keys_of_mem_parses, fun symbol => mem_keys, g.nodup_keys,
      g.pairwise_keys⟩,
    g.parsesMatching_keys tokens, fun symbol h => ⟨?_, ?_⟩⟩
  · exact g.parsesMatching_congr tokens fun t _ => h t.key
  · exact g.count_parsesMatching tokens targets
  · rw [g.parsesMatching_cons_of_notMem tokens h, parsesMatching, Cell.matching]
    simp
  · exact g.parsesMatching_cons_of_notMem tokens h

/-- Several symbols derive the token, and one of them by two productions. -/
def shared : Grammar :=
  ofList [.terminal "N" ["a", "b"], .nonterminal "S" "N" "N", .terminal "V" ["a"],
    .terminal "N" ["a"]]

theorem targets_partition_shared :
    (∀ symbol, symbol ∈ ["V", "N", "V"] ↔ symbol ∈ ["N", "V"]) ∧ ["N", "V"].Nodup ∧
      "X" ∉ shared.keys ∧ shared.keys = ["N", "S", "V"] ∧
      shared.parsesMatching ["a"] ["V", "N", "V"] = shared.parsesMatching ["a"] ["N", "V"] ∧
      (["N", "V"].flatMap fun symbol => shared.parsesMatching ["a"] [symbol]).Perm
        (shared.parsesMatching ["a"] ["N", "V"]) ∧
      shared.parsesMatching ["a"] ["X", "N"] = shared.parsesMatching ["a"] ["N"] :=
  have hset : ∀ symbol, symbol ∈ ["V", "N", "V"] ↔ symbol ∈ ["N", "V"] := by
    grind
  have hkeys : shared.keys = ["N", "S", "V"] := by decide +kernel
  have hother : "X" ∉ shared.keys := by rw [hkeys]; decide
  have h := targets_partition shared ["a"]
  ⟨hset, by decide, hother, hkeys, h.1 _ _ hset, h.2.2.1 ["N", "V"] (by decide),
    (h.2.2.2.2.2 "X" hother).2 ["N"]⟩

/-- The parses keep their order: that for the first target comes between the other two. -/
example :
    ((shared.parsesMatching ["a"] ["V", "N"]).map Tree.key) = ["N", "V", "N"] := by
  decide +kernel

end Grammar

end ChomskyChart
