import ChomskyChart.Proofs.Chart.Locality
import ChomskyChart.Proofs.Derivation.Order
import Mathlib.Data.Set.Finite.Basic

/-!
# The cells enumerate the derivations

The readings of a list of tokens are all its derivations, found by plain recursion on the
cuts of the list. Their trees are what the chart holds, in the same order, and the readings
come in canonical order. So a cell holds every derivation of its span, each once.
-/
namespace ChomskyChart.Derivation

variable (productions : List Production)

/-- A leaf for every production that lists the token. -/
def leaves (token : String) : List Derivation :=
  (productions.findIdxs (token ∈ ·.literals)).map (.leaf · token)

/-- A branch for every production whose components are the keys of both children. -/
def branches (left right : Derivation) : List Derivation :=
  (productions.findIdxs (·.components? =
    some ⟨(left.tree productions).key, (right.tree productions).key⟩)).map (.branch · left right)

/-- A branch for every left child, right child and production that fits them, in this order. -/
def combine (lefts rights : List Derivation) : List Derivation :=
  lefts.flatMap fun left => rights.flatMap fun right => branches productions left right

/-- The derivations of a list of tokens, cut by cut. -/
def readings : List String → List Derivation
  | [] => []
  | [token] => leaves productions token
  | first :: second :: rest =>
    (cuts (first :: second :: rest)).attach.flatMap fun ⟨(front, back), _h⟩ =>
      combine productions (readings front) (readings back)
termination_by tokens => tokens.length
decreasing_by
  · exact (length_lt_of_mem_cuts _h).1
  · exact (length_lt_of_mem_cuts _h).2

theorem readings_nil : readings productions [] = [] := by
  rw [readings]

theorem readings_singleton (token : String) :
    readings productions [token] = leaves productions token := by
  rw [readings]

theorem readings_cuts {tokens : List String} (h : 1 < tokens.length) :
    readings productions tokens =
      (cuts tokens).flatMap fun c =>
        combine productions (readings productions c.1) (readings productions c.2) := by
  match tokens, h with
  | first :: second :: rest, _ =>
    rw [readings]
    conv_rhs => rw [← List.attach_map_subtype_val (cuts _), List.flatMap_map]

/-! ## The trees of the readings -/

theorem map_tree_leaves (token : String) :
    (leaves productions token).map (tree productions) =
      (Grammar.ofList productions).seed token := by
  rw [Grammar.seed, Grammar.matchesLiteral_eq, Grammar.toList_ofList,
    ← map_productionAt_findIdxs, leaves, List.map_map, List.map_map]
  rfl

theorem map_tree_combine (lefts rights : List Derivation) :
    (combine productions lefts rights).map (tree productions) =
      (Grammar.ofList productions).combine (lefts.map (tree productions))
        (rights.map (tree productions)) := by
  rw [combine, Grammar.combine, List.map_flatMap, List.flatMap_map]
  refine List.flatMap_congr fun left _ => ?_
  rw [List.map_flatMap, List.flatMap_map]
  refine List.flatMap_congr fun right _ => ?_
  rw [Grammar.matchesPair_eq, Grammar.toList_ofList, ← map_productionAt_findIdxs, branches,
    List.map_map, List.map_map]
  rfl

/-- The chart holds the trees of the readings, in their order. -/
theorem map_tree_readings (tokens : List String) :
    (readings productions tokens).map (tree productions) =
      (Grammar.ofList productions).parses tokens := by
  induction tokens using cuts_induction with
  | nil => rw [readings_nil, Grammar.parses_nil, List.map_nil]
  | singleton token =>
    rw [readings_singleton, Grammar.parses_singleton, map_tree_leaves]
  | cut tokens h ih =>
    rw [readings_cuts productions h, Grammar.parses_cuts _ h, List.map_flatMap]
    refine List.flatMap_congr fun ⟨front, back⟩ hc => ?_
    obtain ⟨hf, hb⟩ := ih front back hc
    rw [map_tree_combine, hf, hb]

/-! ## The readings are all derivations -/

variable {productions}

theorem mem_leaves_iff {token : String} {d : Derivation} :
    d ∈ leaves productions token ↔ d ∈ all productions [token] := by
  rw [leaves, List.mem_map]
  constructor
  · intro h
    obtain ⟨position, hp, rfl⟩ := h
    obtain ⟨p, stored, hlisted⟩ := mem_findIdxs_iff.mp hp
    obtain ⟨key, literals, rfl, listed⟩ :=
      Production.mem_literals_iff.mp (of_decide_eq_true hlisted)
    exact ⟨key, .leaf stored listed⟩
  · intro h
    obtain ⟨key, hd⟩ := h
    cases d with
    | leaf position token' =>
      obtain ⟨htoken, literals, stored, listed⟩ := derives_leaf_iff.mp hd
      obtain rfl := List.singleton_inj.mp htoken
      exact ⟨position, mem_findIdxs_iff.mpr ⟨_, stored, decide_eq_true listed⟩, rfl⟩
    | branch => exact absurd hd.width_eq (Nat.ne_of_gt (one_lt_width_branch _ _ _))

theorem mem_combine_iff {lefts rights : List Derivation} {d : Derivation} :
    d ∈ combine productions lefts rights ↔
      ∃ position left right key, d = branch position left right ∧ left ∈ lefts ∧
        right ∈ rights ∧ productions[position]? =
          some (.nonterminal key (left.tree productions).key (right.tree productions).key) := by
  simp only [combine, branches, List.mem_flatMap, List.mem_map, mem_findIdxs_iff, decide_eq_true_eq,
    Production.components?_eq_some_iff]
  constructor
  · intro h
    obtain ⟨left, hl, right, hr, position, ⟨p, stored, key, rfl⟩, rfl⟩ := h
    exact ⟨position, left, right, key, rfl, hl, hr, stored⟩
  · intro h
    obtain ⟨position, left, right, key, rfl, hl, hr, stored⟩ := h
    exact ⟨left, hl, right, hr, position, ⟨_, stored, key, rfl⟩, rfl⟩

/-- Nothing is left out and nothing is made up. -/
theorem mem_readings_iff {tokens : List String} {d : Derivation} :
    d ∈ readings productions tokens ↔ d ∈ all productions tokens := by
  induction tokens using cuts_induction generalizing d with
  | nil =>
    rw [readings_nil]
    constructor
    · intro h
      exact (List.not_mem_nil h).elim
    · intro h
      obtain ⟨_, hd⟩ := h
      exact (hd.ne_nil rfl).elim
  | singleton token => rw [readings_singleton, mem_leaves_iff]
  | cut tokens h ih =>
    rw [readings_cuts productions h, List.mem_flatMap]
    constructor
    · intro h
      obtain ⟨⟨front, back⟩, hc, hd⟩ := h
      obtain ⟨-, -, happ⟩ := mem_cuts.mp hc
      obtain ⟨position, left, right, key, rfl, hl, hr, stored⟩ := mem_combine_iff.mp hd
      obtain ⟨leftKey, onLeft⟩ := (ih front back hc).1.mp hl
      obtain ⟨rightKey, onRight⟩ := (ih front back hc).2.mp hr
      -- the components that the production asks for are the symbols the children derive from
      rw [onLeft.key_tree, onRight.key_tree] at stored
      exact ⟨key, happ ▸ .branch stored onLeft onRight⟩
    · intro hd
      obtain ⟨key, hd⟩ := hd
      cases d with
      | leaf =>
        obtain ⟨rfl, -⟩ := derives_leaf_iff.mp hd
        exact (Nat.lt_irrefl 1 h).elim
      | branch position left right =>
        obtain ⟨leftKey, rightKey, front, back, stored, onLeft, onRight, happ⟩ :=
          derives_branch_iff.mp hd
        have hc : (front, back) ∈ cuts tokens :=
          mem_cuts.mpr ⟨onLeft.ne_nil, onRight.ne_nil, happ⟩
        rw [← onLeft.key_tree, ← onRight.key_tree] at stored
        exact ⟨_, hc, mem_combine_iff.mpr ⟨position, left, right, key, rfl,
          (ih front back hc).1.mpr ⟨_, onLeft⟩, (ih front back hc).2.mpr ⟨_, onRight⟩, stored⟩⟩

/-- The parses with a symbol at their root are the trees of its derivations. -/
theorem mem_parses_iff {tokens : List String} {key : String} {t : Tree} :
    t ∈ (Grammar.ofList productions).parses tokens ∧ t.key = key ↔
      ∃ d : Derivation, d.Derives productions key tokens ∧ d.tree productions = t := by
  rw [← map_tree_readings, List.mem_map]
  constructor
  · intro h
    obtain ⟨⟨d, hd, rfl⟩, rfl⟩ := h
    obtain ⟨key, hd⟩ := mem_readings_iff.mp hd
    exact ⟨d, hd.key_tree.symm ▸ hd, rfl⟩
  · intro h
    obtain ⟨d, hd, rfl⟩ := h
    exact ⟨⟨d, mem_readings_iff.mpr ⟨key, hd⟩, rfl⟩, hd.key_tree⟩

/-! ## The readings are in canonical order -/

theorem pairwise_leaves (token : String) : (leaves productions token).Pairwise Precedes := by
  rw [leaves, List.pairwise_map]
  exact List.pairwise_findIdxs.imp .leaf

theorem pairwise_branches (left right : Derivation) :
    (branches productions left right).Pairwise Precedes := by
  rw [branches, List.pairwise_map]
  exact List.pairwise_findIdxs.imp .position

/-- Left children of one width, right children and positions vary as in the order. -/
theorem pairwise_combine {lefts rights : List Derivation} {n : Nat}
    (hl : lefts.Pairwise Precedes) (hr : rights.Pairwise Precedes)
    (hw : ∀ left ∈ lefts, left.width = n) :
    (combine productions lefts rights).Pairwise Precedes := by
  have mem_row : ∀ {left d}, d ∈ rights.flatMap (branches productions left) →
      ∃ position right, d = branch position left right := by
    intro left d hd
    obtain ⟨right, -, hd⟩ := List.mem_flatMap.mp hd
    obtain ⟨position, -, rfl⟩ := List.mem_map.mp hd
    exact ⟨position, right, rfl⟩
  rw [combine, List.pairwise_flatMap]
  constructor
  · intro left _
    rw [List.pairwise_flatMap]
    refine ⟨fun right _ => pairwise_branches left right, hr.imp fun hlt d hd e he => ?_⟩
    obtain ⟨i, -, rfl⟩ := List.mem_map.mp hd
    obtain ⟨j, -, rfl⟩ := List.mem_map.mp he
    exact .right hlt
  -- an earlier left child decides, whatever stands to its right
  · refine hl.imp_of_mem fun hmem hmem' hlt d hd e he => ?_
    obtain ⟨i, right, rfl⟩ := mem_row hd
    obtain ⟨j, right', rfl⟩ := mem_row he
    exact .left ((hw _ hmem).trans (hw _ hmem').symm) hlt

theorem pairwise_readings (tokens : List String) :
    (readings productions tokens).Pairwise Precedes := by
  induction tokens using cuts_induction with
  | nil =>
    rw [readings_nil]
    exact .nil
  | singleton token =>
    rw [readings_singleton]
    exact pairwise_leaves token
  | cut tokens h ih =>
    have hwidth : ∀ {front left}, left ∈ readings productions front →
        left.width = front.length := by
      intro front left hl
      obtain ⟨_, onLeft⟩ := mem_readings_iff.mp hl
      exact onLeft.width_eq
    rw [readings_cuts productions h, List.pairwise_flatMap]
    constructor
    · intro ⟨front, back⟩ hc
      obtain ⟨hf, hb⟩ := ih front back hc
      exact pairwise_combine hf hb fun left => hwidth
    -- an earlier cut decides, because it leaves a narrower left child
    · refine (pairwise_cuts tokens).imp fun hlt d hd e he => ?_
      obtain ⟨_, left, right, _, rfl, hl, -⟩ := mem_combine_iff.mp hd
      obtain ⟨_, left', right', _, rfl, hl', -⟩ := mem_combine_iff.mp he
      exact .split (by rwa [hwidth hl, hwidth hl'])

theorem canonical_readings (productions : List Production) (tokens : List String) :
    Canonical productions tokens (readings productions tokens) :=
  ⟨fun _ => mem_readings_iff, pairwise_readings tokens⟩

/-! ## Cells -/

/-- A cell holds the trees of the readings of its span. -/
theorem cell_eq_map_tree (productions : List Production) (tokens : List String)
    {start stop : Nat} (h : stop ≤ tokens.length) :
    ((Grammar.ofList productions).chart tokens).cell start stop =
      (readings productions (tokens.extract start stop)).map (tree productions) := by
  rw [map_tree_readings, Grammar.cell_eq_parses _ tokens h]

/-- A cell holds every derivation of its span exactly once and nothing else. -/
theorem coe_cell (productions : List Production) (tokens : List String) {start stop : Nat}
    (h : stop ≤ tokens.length) :
    ∃ finite : (all productions (tokens.extract start stop)).Finite,
      (((Grammar.ofList productions).chart tokens).cell start stop : Multiset Tree) =
        finite.toFinset.val.map (tree productions) := by
  have hc := canonical_readings productions (tokens.extract start stop)
  have hfinite : (all productions (tokens.extract start stop)).Finite :=
    (List.finite_toSet _).subset fun d hd => (hc.mem_iff d).mpr hd
  have hval : hfinite.toFinset.val =
      (readings productions (tokens.extract start stop) : Multiset Derivation) := by
    refine (Multiset.Nodup.ext hfinite.toFinset.nodup (Multiset.coe_nodup.mpr hc.nodup)).mpr
      fun d => ?_
    rw [Finset.mem_val, Set.Finite.mem_toFinset, Multiset.mem_coe, hc.mem_iff]
  refine ⟨hfinite, ?_⟩
  rw [hval, Multiset.map_coe, cell_eq_map_tree productions tokens h]

/-- A rule stored twice, with a literal that is listed twice. -/
def copies : List Production :=
  [.nonterminal "S" "S" "S", .terminal "S" ["a", "a"], .terminal "S" ["a"]]

theorem coe_cell_copies :
    3 ≤ ["b", "a", "a"].length ∧
      ∃ finite : (all copies (["b", "a", "a"].extract 1 3)).Finite,
        (((Grammar.ofList copies).chart ["b", "a", "a"]).cell 1 3 : Multiset Tree) =
          finite.toFinset.val.map (tree copies) :=
  ⟨by decide, coe_cell copies ["b", "a", "a"] (by decide)⟩

/-- A cell lists the derivations of its span in canonical order, and so do the parses of all
tokens. -/
theorem canonical_cell (productions : List Production) (tokens : List String)
    {start stop : Nat} (h : stop ≤ tokens.length) :
    (∃! ds, Canonical productions (tokens.extract start stop) ds ∧
        ((Grammar.ofList productions).chart tokens).cell start stop =
          ds.map (tree productions)) ∧
      ∃! ds, Canonical productions tokens ds ∧
        (Grammar.ofList productions).parses tokens = ds.map (tree productions) := by
  have hspan := canonical_readings productions (tokens.extract start stop)
  have htokens := canonical_readings productions tokens
  constructor
  · exact ⟨_, ⟨hspan, cell_eq_map_tree productions tokens h⟩, fun _ he => he.1.eq hspan⟩
  · exact ⟨_, ⟨htokens, (map_tree_readings productions tokens).symm⟩, fun _ he => he.1.eq htokens⟩

theorem canonical_cell_copies :
    3 ≤ ["b", "a", "a"].length ∧
      (∃! ds, Canonical copies (["b", "a", "a"].extract 1 3) ds ∧
        ((Grammar.ofList copies).chart ["b", "a", "a"]).cell 1 3 = ds.map (tree copies)) ∧
      ∃! ds, Canonical copies ["b", "a", "a"] ds ∧
        (Grammar.ofList copies).parses ["b", "a", "a"] = ds.map (tree copies) :=
  ⟨by decide, canonical_cell copies ["b", "a", "a"] (by decide)⟩

/-- A rule counts as often as it is stored, a literal once, and the right child varies first. -/
example :
    ((Grammar.ofList copies).chart ["b", "a", "a"]).cell 1 3 =
      [branch 0 (leaf 1 "a") (leaf 1 "a"), branch 0 (leaf 1 "a") (leaf 2 "a"),
        branch 0 (leaf 2 "a") (leaf 1 "a"), branch 0 (leaf 2 "a") (leaf 2 "a")].map
          (tree copies) := by
  decide +kernel

end ChomskyChart.Derivation
