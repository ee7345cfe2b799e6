import ChomskyChart.Proofs.Derivation.Basic

/-!
# The canonical order of derivations

Leaves are compared by position. Branches are compared by the split, then by their left
children, then by their right children, and by position only at last. No two derivations
precede each other, so there is one way at most to list derivations in this order.
-/
namespace ChomskyChart.Derivation

/-- The canonical order. Branches of one span are split at the same place if and only if their
left children have the same width. -/
inductive Precedes : Derivation → Derivation → Prop
  | leaf {i j : Nat} {token : String} (h : i < j) : Precedes (leaf i token) (leaf j token)
  | split {i j : Nat} {left left' right right' : Derivation} (h : left.width < left'.width) :
      Precedes (branch i left right) (branch j left' right')
  | left {i j : Nat} {left left' right right' : Derivation} (same : left.width = left'.width)
      (h : Precedes left left') : Precedes (branch i left right) (branch j left' right')
  | right {i j : Nat} {left right right' : Derivation} (h : Precedes right right') :
      Precedes (branch i left right) (branch j left right')
  | position {i j : Nat} {left right : Derivation} (h : i < j) :
      Precedes (branch i left right) (branch j left right)

namespace Precedes

variable {d e : Derivation}

theorem irrefl (d : Derivation) : ¬ Precedes d d := by
  induction d with
  | leaf i token =>
    intro h
    cases h with
    | leaf hlt => omega
  | branch i left right ihl ihr =>
    intro h
    cases h with
    | split hlt => omega
    | left _ h => exact ihl h
    | right h => exact ihr h
    | position hlt => omega

theorem asymm (h : Precedes d e) : ¬ Precedes e d := by
  intro h'
  -- two different clauses cannot both apply: a child that both share would precede itself
  induction h with
  | leaf hlt =>
    cases h' with
    | leaf hgt => omega
  | split hlt => cases h' <;> omega
  | left same h ih =>
    cases h' with
    | split hgt => omega
    | left _ h' => exact ih h'
    | right _ => exact irrefl _ h
    | position _ => exact irrefl _ h
  | right h ih =>
    cases h' with
    | split hgt => omega
    | left _ h' => exact irrefl _ h'
    | right h' => exact ih h'
    | position _ => exact irrefl _ h
  | position hlt =>
    cases h' with
    | split hgt => omega
    | left _ h' => exact irrefl _ h'
    | right h' => exact irrefl _ h'
    | position hgt => omega

end Precedes

/-- The list of all derivations of some tokens in canonical order. -/
structure Canonical (productions : List Production) (tokens : List String)
    (ds : List Derivation) : Prop where
  mem_iff : ∀ d, d ∈ ds ↔ d ∈ all productions tokens
  ascending : ds.Pairwise Precedes

namespace Canonical

variable {productions : List Production} {tokens : List String} {ds es : List Derivation}

theorem nodup (h : Canonical productions tokens ds) : ds.Nodup := by
  apply h.ascending.imp
  intro d e hlt heq
  subst heq
  exact Precedes.irrefl d hlt

/-- The members and the order leave no choice. -/
theorem eq (hd : Canonical productions tokens ds) (he : Canonical productions tokens es) :
    ds = es := by
  have hperm : ds.Perm es :=
    (List.perm_ext_iff_of_nodup hd.nodup he.nodup).mpr fun d =>
      (hd.mem_iff d).trans (he.mem_iff d).symm
  exact hperm.eq_of_pairwise (fun _ _ _ _ h h' => (h.asymm h').elim) hd.ascending he.ascending

end Canonical

end ChomskyChart.Derivation
