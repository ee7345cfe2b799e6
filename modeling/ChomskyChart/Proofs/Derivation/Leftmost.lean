import ChomskyChart.Proofs.Derivation.Distinct
import Mathlib.Data.Set.Function

/-!
# Leftmost derivations

A stack machine derives tokens from a symbol: it always rewrites the symbol on top of its stack,
which is the leftmost one that is still open. The productions of a tree, each node before those
below it, are the moves of an accepting run, and every accepting run is that of one tree.
-/
namespace ChomskyChart

namespace Tree

/-- The productions of all nodes, each before those below it. -/
def productions : Tree → List Production
  | leaf p _ => [p]
  | branch p left right => p :: (left.productions ++ right.productions)

theorem productionKeys_eq (t : Tree) : t.productionKeys = t.productions.map (·.key) := by
  induction t with
  | leaf => rfl
  | branch p left right ihl ihr =>
    rw [productionKeys, productions, ihl, ihr, List.map_cons, List.map_append]

/-- Every node agrees with its production: a leaf holds one of its literals, and the children of
a branch are trees of its components. -/
inductive Fits : Tree → Prop
  | leaf {key token : String} {literals : List String} (listed : token ∈ literals) :
      Fits (.leaf (.terminal key literals) token)
  | branch {key : String} {left right : Tree} (onLeft : Fits left) (onRight : Fits right) :
      Fits (.branch (.nonterminal key left.key right.key) left right)

/-- Two trees whose productions and tokens start alike are equal and stop at the same place: the
first production tells whether there are children. -/
theorem Fits.eq_of_productions {t u : Tree} (ht : t.Fits) (hu : u.Fits)
    {run run' : List Production} {back back' : List String}
    (hrun : t.productions ++ run = u.productions ++ run')
    (htokens : t.tokens ++ back = u.tokens ++ back') : t = u ∧ run = run' ∧ back = back' := by
  induction ht generalizing u run run' back back' with
  | leaf =>
    cases hu with
    | leaf =>
      obtain ⟨hp, rfl⟩ := List.cons.inj hrun
      obtain ⟨rfl, rfl⟩ := List.cons.inj htokens
      rw [hp]
      exact ⟨rfl, rfl, rfl⟩
    | branch => cases (List.cons.inj hrun).1
  | branch _ _ ihl ihr =>
    cases hu with
    | leaf => cases (List.cons.inj hrun).1
    | branch onLeft' onRight' =>
      simp only [productions, tokens, List.cons_append, List.append_assoc] at hrun htokens
      obtain ⟨hp, hrun⟩ := List.cons.inj hrun
      obtain ⟨rfl, hrun, htokens⟩ := ihl onLeft' hrun htokens
      obtain ⟨rfl, hrun, htokens⟩ := ihr onRight' hrun htokens
      rw [hp]
      exact ⟨rfl, hrun, htokens⟩

end Tree

/-! ## The machine -/

namespace Machine

/-- The symbols that are still to be derived, the next one first, and the tokens not yet read. -/
structure Config where
  stack : List String
  unread : List String

/-- A move takes the symbol from the top of the stack: it puts the components of a production in
its place, or reads a token that a production lists. -/
inductive Move (productions : List Production) : Config → Production → Config → Prop
  | expand {key left right : String} {below unread : List String}
      (stored : .nonterminal key left right ∈ productions) :
      Move productions ⟨key :: below, unread⟩ (.nonterminal key left right)
        ⟨left :: right :: below, unread⟩
  | read {key token : String} {literals below unread : List String}
      (stored : .terminal key literals ∈ productions) (listed : token ∈ literals) :
      Move productions ⟨key :: below, token :: unread⟩ (.terminal key literals) ⟨below, unread⟩

/-- Moves one after another, told by their productions. -/
inductive Run (productions : List Production) : Config → List Production → Config → Prop
  | done (c : Config) : Run productions c [] c
  | move {c c' c'' : Config} {p : Production} {run : List Production}
      (first : Move productions c p c') (rest : Run productions c' run c'') :
      Run productions c (p :: run) c''

/-- A run that starts with a symbol and ends with an empty stack and all tokens read. -/
def Accepts (productions : List Production) (key : String) (tokens : List String)
    (run : List Production) : Prop :=
  Run productions ⟨[key], tokens⟩ run ⟨[], []⟩

variable {productions run run' : List Production} {c c' c'' : Config} {p : Production}

theorem Move.unique (h : Move productions c p c') (h' : Move productions c p c'') : c' = c'' := by
  cases h with
  | expand => cases h'; rfl
  | read => cases h'; rfl

/-- A run is settled by its productions. -/
theorem Run.unique (h : Run productions c run c') (h' : Run productions c run c'') :
    c' = c'' := by
  induction h with
  | done => cases h'; rfl
  | move first _ ih =>
    cases h' with
    | move first' rest' => exact ih (first.unique first' ▸ rest')

theorem Run.append (h : Run productions c run c') (h' : Run productions c' run' c'') :
    Run productions c (run ++ run') c'' := by
  induction h with
  | done => exact h'
  | move first _ ih => exact .move first (ih h')

end Machine

namespace Derivation

open Machine

variable {productions run : List Production} {d : Derivation} {ds : List Derivation}
  {key : String} {tokens front : List String} {c c' : Config} {p : Production}

theorem Derives.fits_tree (h : d.Derives productions key tokens) : (d.tree productions).Fits := by
  induction h with
  | leaf stored listed =>
    rw [tree, productionAt_eq stored]
    exact .leaf listed
  | branch stored onLeft onRight ihl ihr =>
    rw [tree, productionAt_eq stored, ← onLeft.key_tree, ← onRight.key_tree]
    exact .branch ihl ihr

/-! ## From derivations to runs -/

/-- A derivation is carried out above whatever lies on the stack and before whatever is left to
read. -/
theorem Derives.run_tree (h : d.Derives productions key front) (below back : List String) :
    Run productions ⟨key :: below, front ++ back⟩ (d.tree productions).productions
      ⟨below, back⟩ := by
  induction h generalizing below back with
  | leaf stored listed =>
    rw [tree, productionAt_eq stored]
    exact .move (.read (List.mem_of_getElem? stored) listed) (.done _)
  | @branch _ _ leftKey rightKey front middle _ _ stored _ _ ihl ihr =>
    rw [tree, productionAt_eq stored, List.append_assoc]
    exact .move (.expand (List.mem_of_getElem? stored))
      ((ihl (rightKey :: below) (middle ++ back)).append (ihr below back))

/-! ## From runs to derivations -/

/-- Derivations of the symbols on the stack, which share out the unread tokens in their order. -/
inductive Completes (productions : List Production) : Config → List Derivation → Prop
  | done : Completes productions ⟨[], []⟩ []
  | symbol {d : Derivation} {ds : List Derivation} {key : String} {below front back : List String}
      (derives : d.Derives productions key front) (rest : Completes productions ⟨below, back⟩ ds) :
      Completes productions ⟨key :: below, front ++ back⟩ (d :: ds)

/-- The productions of derivations one after another, each derivation from its top. -/
def fromTop (productions : List Production) (ds : List Derivation) : List Production :=
  ds.flatMap fun d => (d.tree productions).productions

/-- A move read backwards: two derivations become the children of one, or a leaf is added. -/
theorem Completes.of_move (h : Move productions c p c') (hds : Completes productions c' ds) :
    ∃ ds', Completes productions c ds' ∧ fromTop productions ds' = p :: fromTop productions ds := by
  cases h with
  | expand stored =>
    obtain ⟨position, stored⟩ := List.mem_iff_getElem?.mp stored
    cases hds with
    | @symbol left _ _ _ _ _ onLeft rest =>
      cases rest with
      | @symbol right ds _ _ _ _ onRight rest =>
        refine ⟨.branch position left right :: ds, ?_, ?_⟩
        · rw [← List.append_assoc]
          exact .symbol (.branch stored onLeft onRight) rest
        · simp [fromTop, tree, Tree.productions, productionAt_eq stored]
  | @read _ token _ _ _ stored listed =>
    obtain ⟨position, stored⟩ := List.mem_iff_getElem?.mp stored
    refine ⟨.leaf position token :: ds, .symbol (.leaf stored listed) hds, ?_⟩
    simp [fromTop, tree, Tree.productions, productionAt_eq stored]

/-- A run that leaves nothing over is made of derivations of the symbols on its stack. -/
theorem Completes.of_run (h : Run productions c run ⟨[], []⟩) :
    ∃ ds, Completes productions c ds ∧ fromTop productions ds = run := by
  -- from the end, where no symbol is left to derive, back to the first move
  generalize hend : (⟨[], []⟩ : Config) = last at h
  induction h with
  | done =>
    subst hend
    exact ⟨[], .done, rfl⟩
  | move first _ ih =>
    obtain ⟨ds, hds, rfl⟩ := ih hend
    exact Completes.of_move first hds

/-- The accepting runs are those of the derivations. -/
theorem accepts_iff :
    Accepts productions key tokens run ↔
      ∃ d : Derivation, d.Derives productions key tokens ∧
        (d.tree productions).productions = run := by
  constructor
  · intro h
    obtain ⟨ds, hds, rfl⟩ := Completes.of_run h
    cases hds with
    | @symbol d _ _ _ _ _ derives rest =>
      cases rest
      refine ⟨d, ?_, ?_⟩
      · rwa [List.append_nil]
      · simp [fromTop]
  · intro h
    obtain ⟨d, hd, rfl⟩ := h
    have hrun := hd.run_tree [] []
    rwa [List.append_nil] at hrun

/-- The runs of the parses with a symbol at their root are the accepting runs from it. -/
theorem image_productions (tokens : List String) (key : String) :
    Tree.productions '' {t | t ∈ (Grammar.ofList productions).parses tokens ∧ t.key = key} =
      {run | Accepts productions key tokens run} := by
  ext run
  constructor
  · intro h
    obtain ⟨t, ht, rfl⟩ := h
    obtain ⟨d, hd, rfl⟩ := mem_parses_iff.mp ht
    exact accepts_iff.mpr ⟨d, hd, rfl⟩
  · intro h
    obtain ⟨d, hd, rfl⟩ := accepts_iff.mp h
    exact ⟨_, mem_parses_iff.mpr ⟨d, hd, rfl⟩, rfl⟩

/-- No two parses of the same tokens have the same run. -/
theorem injOn_productions (tokens : List String) :
    Set.InjOn Tree.productions {t | t ∈ (Grammar.ofList productions).parses tokens} := by
  intro t ht u hu hrun
  obtain ⟨d, hd, rfl⟩ := mem_parses_iff.mp ⟨ht, rfl⟩
  obtain ⟨e, he, rfl⟩ := mem_parses_iff.mp ⟨hu, rfl⟩
  have htokens : (d.tree productions).tokens = (e.tree productions).tokens :=
    hd.tokens_tree.trans he.tokens_tree.symm
  exact (hd.fits_tree.eq_of_productions he.fits_tree (congrArg (· ++ []) hrun)
    (congrArg (· ++ []) htokens)).1

end Derivation

namespace Grammar

open Machine

/-- A builder and a text give no grammar that stores a production twice. In a grammar that does
not, the parses with a symbol at their root are, one for one, the accepting runs from this symbol,
and their keys are the keys along the run. -/
theorem bijOn_productions (g : Grammar) :
    (g.Checked → g.toList.Nodup) ∧
      (g.toList.Nodup → ∀ (tokens : List String) (key : String),
        (g.parses tokens).Nodup ∧
          Set.BijOn Tree.productions {t | t ∈ g.parses tokens ∧ t.key = key}
            {run | Accepts g.toList key tokens run} ∧
          ∀ t ∈ g.parses tokens, t.productionKeys = t.productions.map (·.key)) := by
  refine ⟨Checked.nodup_toList, fun h tokens key => ?_⟩
  obtain ⟨productions, rfl⟩ : ∃ productions, ofList productions = g := ⟨_, g.ofList_toList⟩
  refine ⟨Derivation.nodup_parses h tokens, ?_, fun t _ => t.productionKeys_eq⟩
  rw [toList_ofList, ← Derivation.image_productions tokens key]
  exact ((Derivation.injOn_productions tokens).mono fun t ht => ht.1).bijOn_image

/-- Two terminal productions that differ in their literals only. -/
def overlapping : List Production :=
  [.nonterminal "S" "S" "S", .terminal "S" ["a", "b"], .terminal "S" ["b"]]

theorem bijOn_productions_overlapping :
    (ofList overlapping).Checked ∧ (ofList overlapping).toList.Nodup ∧
      ((ofList overlapping).parses ["a", "b", "b"]).Nodup ∧
      Set.BijOn Tree.productions
        {t | t ∈ (ofList overlapping).parses ["a", "b", "b"] ∧ t.key = "S"}
        {run | Accepts (ofList overlapping).toList "S" ["a", "b", "b"] run} ∧
      ∀ t ∈ (ofList overlapping).parses ["a", "b", "b"],
        t.productionKeys = t.productions.map (·.key) :=
  have hchecked : (ofList overlapping).Checked := .built (overlapping.map .push) rfl
  ⟨hchecked, (bijOn_productions (ofList overlapping)).1 hchecked,
    (bijOn_productions (ofList overlapping)).2 (by decide) ["a", "b", "b"] "S"⟩

/-- The run of a tree goes down to the left first. -/
example :
    ((ofList overlapping).parses ["a", "b"]).map Tree.productions =
      [[.nonterminal "S" "S" "S", .terminal "S" ["a", "b"], .terminal "S" ["a", "b"]],
        [.nonterminal "S" "S" "S", .terminal "S" ["a", "b"], .terminal "S" ["b"]]] := by
  decide +kernel

end Grammar

end ChomskyChart
