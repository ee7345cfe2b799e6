import ChomskyChart.Grammar.Index
import ChomskyChart.Grammar.Production

/-!
# Grammars

A grammar is a list of productions in the order of their definition, with one index by
literal and one by pair of components. The indexes are those of its productions, so a
look-up selects the productions that a scan of the list would select, in that order.
-/
namespace ChomskyChart

instance : Ord Pair := ⟨compareLex (compareOn Pair.left) (compareOn Pair.right)⟩

instance : Std.TransOrd Pair :=
  inferInstanceAs (Std.TransCmp (compareLex (compareOn Pair.left) (compareOn Pair.right)))

instance : Std.LawfulEqOrd Pair where
  eq_of_compare {a b} h := by
    obtain ⟨hl, hr⟩ := compareLex_eq_eq.mp (show compareLex _ _ a b = .eq from h)
    cases a; cases b
    exact congr (congrArg Pair.mk (Std.LawfulEqOrd.eq_of_compare hl))
      (Std.LawfulEqOrd.eq_of_compare hr)

namespace Index

/-- File a production at its position under each of its literals. A literal that occurs again in the
production finds the position already at the end of its bucket. -/
def addLiterals (index : Index String) (p : Production) (position : Nat) : Index String :=
  p.literals.foldl (·.pushOnce · position) index

/-- File a production at its position under its components, if it has any. -/
def addComponents (index : Index Pair) (p : Production) (position : Nat) : Index Pair :=
  match p.components? with
  | some pair => index.push pair position
  | none => index

theorem positions_addLiterals (index : Index String) (p : Production) (position : Nat)
    (token : String) :
    (index.addLiterals p position).positions token =
      if token ∈ p.literals ∧ (index.positions token).getLast? ≠ some position then
        index.positions token ++ [position]
      else index.positions token := by
  rw [addLiterals]
  generalize p.literals = literals
  induction literals generalizing index with
  | nil => simp
  | cons literal rest ih =>
    rw [List.foldl_cons, ih, positions_pushOnce]
    by_cases hfiled : (index.positions token).getLast? = some position
    · simp [hfiled]
    · by_cases hliteral : literal = token
      · subst hliteral
        simp [hfiled]
      · have htoken : token ≠ literal := Ne.symm hliteral
        simp [hliteral, htoken]

theorem positions_addComponents (index : Index Pair) (p : Production) (position : Nat)
    (pair : Pair) :
    (index.addComponents p position).positions pair =
      index.positions pair ++ if p.components? = some pair then [position] else [] := by
  rw [addComponents]
  cases p.components? with
  | none => simp
  | some components =>
    rw [positions_push]
    by_cases h : components = pair <;> simp [h]

/-- One pass over a list. If every step files its position at most once, behind smaller positions
only, then the bucket of a key gets the positions of the elements filed under it. -/
theorem positions_foldl {κ : Type} [Ord κ] {file : Index κ → Production → Nat → Index κ} {key : κ}
    {here : Production → Bool}
    (hfile : ∀ index p i, (∀ j ∈ index.positions key, j < i) →
      (file index p i).positions key = index.positions key ++ if here p then [i] else [])
    (productions : List Production) (k : Nat) (index : Index κ)
    (hk : ∀ j ∈ index.positions key, j < k) :
    ((productions.zipIdx k).foldl (fun index (p, i) => file index p i) index).positions key =
      index.positions key ++
        (productions.zipIdx k).flatMap fun (p, i) => if here p then [i] else [] := by
  induction productions generalizing k index with
  | nil => simp
  | cons p rest ih =>
    have hstep := hfile index p k hk
    have hnext : ∀ j ∈ (file index p k).positions key, j < k + 1 := by
      intro j hj
      rw [hstep] at hj
      rcases List.mem_append.mp hj with hj | hj
      · exact Nat.lt_succ_of_lt (hk j hj)
      · split at hj
        · exact Nat.lt_succ_of_le (Nat.le_of_eq (List.mem_singleton.mp hj))
        · cases hj
    rw [List.zipIdx_cons, List.foldl_cons, ih (k + 1) _ hnext, hstep, List.flatMap_cons,
      List.append_assoc]

end Index

/-- The index of a list of productions by literal. -/
def literalIndex (productions : List Production) : Index String :=
  productions.zipIdx.foldl (fun index (p, i) => index.addLiterals p i) ∅

/-- The index of a list of productions by their components. -/
def pairIndex (productions : List Production) : Index Pair :=
  productions.zipIdx.foldl (fun index (p, i) => index.addComponents p i) ∅

theorem positions_literalIndex (productions : List Production) (token : String) :
    (literalIndex productions).positions token =
      productions.zipIdx.flatMap fun (p, i) => if token ∈ p.literals then [i] else [] := by
  have hfile : ∀ (index : Index String) (p : Production) (i : Nat),
      (∀ j ∈ index.positions token, j < i) →
        (index.addLiterals p i).positions token =
          index.positions token ++ if decide (token ∈ p.literals) then [i] else [] := by
    intro index p i hi
    have hlast : (index.positions token).getLast? ≠ some i := fun h =>
      Nat.lt_irrefl i (hi i (List.mem_of_getLast? h))
    rw [Index.positions_addLiterals]
    by_cases h : token ∈ p.literals <;> simp [h, hlast]
  have hpass := Index.positions_foldl hfile productions 0 ∅ (by simp)
  simpa [literalIndex] using hpass

theorem positions_pairIndex (productions : List Production) (pair : Pair) :
    (pairIndex productions).positions pair =
      productions.zipIdx.flatMap fun (p, i) => if p.components? = some pair then [i] else [] := by
  have hfile : ∀ (index : Index Pair) (p : Production) (i : Nat),
      (∀ j ∈ index.positions pair, j < i) →
        (index.addComponents p i).positions pair =
          index.positions pair ++ if decide (p.components? = some pair) then [i] else [] := by
    intro index p i _
    rw [Index.positions_addComponents]
    by_cases h : p.components? = some pair <;> simp [h]
  have hpass := Index.positions_foldl hfile productions 0 ∅ (by simp)
  simpa [pairIndex] using hpass

structure Grammar where
  productions : Array Production
  byLiteral : Index String := literalIndex productions.toList
  byPair : Index Pair := pairIndex productions.toList
  byLiteral_eq : byLiteral = literalIndex productions.toList := by rfl
  byPair_eq : byPair = pairIndex productions.toList := by rfl

namespace Grammar

/-- The grammar of these productions as they are, without a check. -/
def ofList (productions : List Production) : Grammar :=
  { productions := productions.toArray }

instance : EmptyCollection Grammar := ⟨ofList []⟩

def toList (g : Grammar) : List Production := g.productions.toList

def size (g : Grammar) : Nat := g.productions.size

def isEmpty (g : Grammar) : Bool := g.productions.isEmpty

/-- Every key once, in the order of the first definitions. -/
def keys (g : Grammar) : List String :=
  (g.toList.map (·.key)).eraseDups

/-- The productions at these positions. -/
def select (g : Grammar) (positions : List Nat) : List Production :=
  positions.filterMap (g.productions[·]?)

/-- The terminal productions that list the token, in the order of definition. -/
def matchesLiteral (g : Grammar) (token : String) : List Production :=
  g.select (g.byLiteral.positions token)

/-- The nonterminal productions with exactly these components, in the order of definition. -/
def matchesPair (g : Grammar) (left right : String) : List Production :=
  g.select (g.byPair.positions ⟨left, right⟩)

/-- One line for every production. -/
def text (g : Grammar) : String :=
  String.join (g.toList.map (·.text ++ "\n"))

@[simp]
theorem toList_ofList (productions : List Production) : (ofList productions).toList = productions :=
  rfl

/-- A grammar is settled by its productions. -/
@[simp]
theorem ofList_toList (g : Grammar) : ofList g.toList = g := by
  obtain ⟨productions, byLiteral, byPair, hliteral, hpair⟩ := g
  subst hliteral hpair
  rfl

/-- Filing each position at most once and selecting what was filed is a scan of the list. -/
theorem select_scan (g : Grammar) (here : Production → Bool) :
    g.select (g.toList.zipIdx.flatMap fun (p, i) => if here p then [i] else []) =
      g.toList.filter here := by
  have lookup : ∀ e ∈ g.toList.zipIdx,
      (if here e.1 then [e.2] else []).filterMap (g.productions[·]?) =
        if here e.1 then [e.1] else [] := by
    intro e he
    have hg := List.mem_zipIdx_iff_getElem?.mp he
    split
    · simp [toList] at hg
      simp [hg]
    · rfl
  have filed : ∀ (l : List Production) (k : Nat),
      (l.zipIdx k).flatMap (fun e => if here e.1 then [e.1] else []) = l.filter here := by
    intro l
    induction l with
    | nil => simp
    | cons p l ih => intro k; by_cases h : here p <;> simp [List.zipIdx_cons, h, ih]
  rw [select, List.filterMap_flatMap, ← filed g.toList 0]
  simp only [List.flatMap_def]
  exact congrArg List.flatten (List.map_congr_left lookup)

theorem matchesLiteral_eq (g : Grammar) (token : String) :
    g.matchesLiteral token = g.toList.filter (token ∈ ·.literals) := by
  rw [matchesLiteral, g.byLiteral_eq, positions_literalIndex, ← select_scan]
  simp [toList]

theorem matchesPair_eq (g : Grammar) (left right : String) :
    g.matchesPair left right = g.toList.filter (·.components? = some ⟨left, right⟩) := by
  rw [matchesPair, g.byPair_eq, positions_pairIndex, ← select_scan]
  simp [toList]

theorem mem_matchesLiteral {g : Grammar} {token : String} {p : Production} :
    p ∈ g.matchesLiteral token ↔ p ∈ g.toList ∧ token ∈ p.literals := by
  rw [matchesLiteral_eq, List.mem_filter, decide_eq_true_iff]

theorem mem_matchesPair {g : Grammar} {left right : String} {p : Production} :
    p ∈ g.matchesPair left right ↔ p ∈ g.toList ∧ p.components? = some ⟨left, right⟩ := by
  rw [matchesPair_eq, List.mem_filter, decide_eq_true_iff]

end Grammar

end ChomskyChart
