import ChomskyChart.Text.Quoted

/-!
# Productions in Chomsky normal form

A production derives from its key one token out of a list of literals, or two component
symbols. Two productions are the same rule when they derive the same from the same key, so
the order and the repeats of literals do not tell them apart.
-/
namespace ChomskyChart

/-- What a production derives from its key. A terminal body without literals matches nothing. -/
inductive Body
  | terminal (literals : List String)
  | nonterminal (left right : String)
deriving DecidableEq

/-- Two symbols side by side, as a nonterminal production produces them. -/
structure Pair where
  left : String
  right : String
deriving DecidableEq

structure Production where
  key : String
  body : Body
deriving DecidableEq

namespace Body

/-- Literals in quotes with bars between them, or the two symbols with a blank between them. -/
def text : Body → String
  | terminal literals => " | ".intercalate (literals.map Text.quoted)
  | nonterminal left right => left ++ " " ++ right

/-- Bodies that derive the same: literals are compared as sets. -/
def Same : Body → Body → Prop
  | terminal l, terminal m => l ⊆ m ∧ m ⊆ l
  | nonterminal l r, nonterminal l' r' => l = l' ∧ r = r'
  | _, _ => False

instance : DecidableRel Same
  | terminal l, terminal m => inferInstanceAs (Decidable (l ⊆ m ∧ m ⊆ l))
  | nonterminal l r, nonterminal l' r' => inferInstanceAs (Decidable (l = l' ∧ r = r'))
  | terminal _, nonterminal _ _ => isFalse id
  | nonterminal _ _, terminal _ => isFalse id

theorem Same.refl : ∀ b : Body, b.Same b
  | terminal _ => ⟨List.Subset.refl _, List.Subset.refl _⟩
  | nonterminal _ _ => ⟨rfl, rfl⟩

theorem Same.symm {a b : Body} (h : a.Same b) : b.Same a := by
  cases a <;> cases b <;> simp_all [Same]

theorem Same.trans {a b c : Body} (hab : a.Same b) (hbc : b.Same c) : a.Same c := by
  cases a <;> cases b <;> try exact hab.elim
  all_goals cases c <;> try exact hbc.elim
  · exact ⟨List.Subset.trans hab.1 hbc.1, List.Subset.trans hbc.2 hab.2⟩
  · exact ⟨hab.1.trans hbc.1, hab.2.trans hbc.2⟩

end Body

namespace Production

def terminal (key : String) (literals : List String) : Production :=
  ⟨key, .terminal literals⟩

def nonterminal (key left right : String) : Production :=
  ⟨key, .nonterminal left right⟩

def isTerminal (p : Production) : Bool :=
  match p.body with
  | .terminal _ => true
  | .nonterminal _ _ => false

/-- The literals as they were given, none for a nonterminal production. -/
def literals (p : Production) : List String :=
  match p.body with
  | .terminal literals => literals
  | .nonterminal _ _ => []

def components? (p : Production) : Option Pair :=
  match p.body with
  | .terminal _ => none
  | .nonterminal left right => some ⟨left, right⟩

/-- The production as one line without its end. -/
def text (p : Production) : String :=
  p.key ++ " -> " ++ p.body.text

/-- Productions that derive the same from the same key. -/
def SameRule (p q : Production) : Prop :=
  p.key = q.key ∧ p.body.Same q.body

instance : DecidableRel SameRule := fun p q =>
  inferInstanceAs (Decidable (p.key = q.key ∧ p.body.Same q.body))

theorem SameRule.refl (p : Production) : p.SameRule p := ⟨rfl, .refl _⟩

theorem SameRule.symm {p q : Production} (h : p.SameRule q) : q.SameRule p :=
  ⟨h.1.symm, h.2.symm⟩

theorem SameRule.trans {p q r : Production} (hpq : p.SameRule q) (hqr : q.SameRule r) :
    p.SameRule r :=
  ⟨hpq.1.trans hqr.1, hpq.2.trans hqr.2⟩

end Production

end ChomskyChart
