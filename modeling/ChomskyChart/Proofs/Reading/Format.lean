import ChomskyChart.Grammar.Rule
import ChomskyChart.Proofs.Builder.Acceptance

/-!
# The format of a grammar text

Which lexemes describe which productions, said by relations that know neither stages nor
lines. A rule is a name, `:=`, a body and a semicolon; the body is empty or has alternatives
with bars between them, each of one literal or two symbols. The relations agree with the
lexemes and the productions of rules as data.
-/
namespace ChomskyChart

/-- One alternative, with the literal or the pair it stands for. -/
inductive AlternativeForm : List Lexeme → List String → List Pair → Prop
  | literal (content : String) : AlternativeForm [.literal content] [content] []
  | pair (left right : String) : AlternativeForm [.symbol left, .symbol right] [] [⟨left, right⟩]

/-- Alternatives with bars between them, with their literals and their pairs in written order. -/
inductive BodyForm : List Lexeme → List String → List Pair → Prop
  | last {xs : List Lexeme} {literals : List String} {pairs : List Pair}
      (alternative : AlternativeForm xs literals pairs) : BodyForm xs literals pairs
  | bar {xs ys : List Lexeme} {literals literals' : List String} {pairs pairs' : List Pair}
      (alternative : AlternativeForm xs literals pairs) (rest : BodyForm ys literals' pairs') :
      BodyForm (xs ++ .bar :: ys) (literals ++ literals') (pairs ++ pairs')

/-- One rule with its productions: a terminal one for all literals, which an empty body has too,
and a nonterminal one for each pair. -/
inductive RuleForm : List Lexeme → List Production → Prop
  | empty (key : String) :
      RuleForm [.symbol key, .becomes, .semicolon] [.terminal key []]
  | pairs (key : String) {xs : List Lexeme} {pairs : List Pair} (body : BodyForm xs [] pairs) :
      RuleForm ([.symbol key, .becomes] ++ xs ++ [.semicolon])
        (pairs.map fun p => .nonterminal key p.left p.right)
  | literals (key : String) {xs : List Lexeme} {literals : List String} {pairs : List Pair}
      (body : BodyForm xs literals pairs) (listed : literals ≠ []) :
      RuleForm ([.symbol key, .becomes] ++ xs ++ [.semicolon])
        (.terminal key literals :: pairs.map fun p => .nonterminal key p.left p.right)

/-- Rules one after another, with their productions. -/
inductive GrammarForm : List Lexeme → List Production → Prop
  | nil : GrammarForm [] []
  | rule {xs ys : List Lexeme} {ps qs : List Production} (first : RuleForm xs ps)
      (rest : GrammarForm ys qs) : GrammarForm (xs ++ ys) (ps ++ qs)

/-! ## Symbols -/

theorem BodyForm.symbol_mem {xs : List Lexeme} {literals : List String} {pairs : List Pair}
    (h : BodyForm xs literals pairs) :
    ∀ c ∈ pairs, .symbol c.left ∈ xs ∧ .symbol c.right ∈ xs := by
  induction h with
  | last alternative => cases alternative <;> simp
  | bar alternative rest ih =>
    intro c hc
    rcases List.mem_append.mp hc with hc | hc
    · cases alternative with
      | literal => cases hc
      | pair left right =>
        obtain rfl := List.mem_singleton.mp hc
        simp
    · obtain ⟨hleft, hright⟩ := ih c hc
      simp [hleft, hright]

/-- The names in a production are symbols of its rule. -/
theorem RuleForm.symbol_mem {xs : List Lexeme} {ps : List Production} (h : RuleForm xs ps) :
    ∀ p ∈ ps, ∀ name ∈ p.names, .symbol name ∈ xs := by
  -- a production of a pair names the components of this pair
  have hpair : ∀ {key : String} {ys : List Lexeme} {pairs : List Pair} {p : Production},
      (∀ c ∈ pairs, .symbol c.left ∈ ys ∧ .symbol c.right ∈ ys) →
      p ∈ pairs.map (fun c => .nonterminal key c.left c.right) →
      ∀ name ∈ p.names, .symbol name ∈ [.symbol key, .becomes] ++ ys ++ [.semicolon] := by
    intro key ys pairs p hys hp
    obtain ⟨c, hc, rfl⟩ := List.mem_map.mp hp
    obtain ⟨hleft, hright⟩ := hys c hc
    simp [Production.nonterminal, Production.names, hleft, hright]
  cases h with
  | empty key => simp [Production.terminal, Production.names]
  | pairs key body =>
    intro p hp
    exact hpair body.symbol_mem hp
  | literals key body =>
    intro p hp
    rcases List.mem_cons.mp hp with rfl | hp
    · simp [Production.terminal, Production.names]
    · exact hpair body.symbol_mem hp

theorem GrammarForm.symbol_mem {xs : List Lexeme} {ps : List Production} (h : GrammarForm xs ps) :
    ∀ p ∈ ps, ∀ name ∈ p.names, .symbol name ∈ xs := by
  induction h with
  | nil => simp
  | @rule xs ys ps qs first rest ih =>
    intro p hp name hname
    rcases List.mem_append.mp hp with hp | hp
    · exact List.mem_append_left ys (first.symbol_mem p hp name hname)
    · exact List.mem_append_right xs (ih p hp name hname)

/-! ## Rules as data -/

namespace Alternative

def lexemes : Alternative → List Lexeme
  | literal content => [.literal content]
  | pair components => [.symbol components.left, .symbol components.right]

theorem ofLexemes?_eq_some_iff {xs : List Lexeme} {a : Alternative} :
    ofLexemes? xs = some a ↔ xs = a.lexemes := by
  constructor
  · intro h
    unfold ofLexemes? at h
    split at h
    · cases h
      rfl
    · cases h
      rfl
    · cases h
  · intro h
    subst h
    cases a <;> rfl

theorem form_lexemes (a : Alternative) :
    AlternativeForm a.lexemes a.literal?.toList a.pair?.toList := by
  cases a with
  | literal content => exact .literal content
  | pair components => exact .pair components.left components.right

theorem exists_of_form {xs : List Lexeme} {literals : List String} {pairs : List Pair}
    (h : AlternativeForm xs literals pairs) :
    ∃ a : Alternative, a.lexemes = xs ∧ a.literal?.toList = literals ∧ a.pair?.toList = pairs := by
  cases h with
  | literal content => exact ⟨.literal content, rfl, rfl, rfl⟩
  | pair left right => exact ⟨.pair ⟨left, right⟩, rfl, rfl, rfl⟩

end Alternative

/-- The lexemes of alternatives with bars between them. -/
def bodyLexemes (body : List Alternative) : List Lexeme :=
  [Lexeme.bar].intercalate (body.map Alternative.lexemes)

theorem bodyLexemes_singleton (a : Alternative) : bodyLexemes [a] = a.lexemes := by
  simp [bodyLexemes]

theorem bodyLexemes_cons {a : Alternative} {body : List Alternative} (h : body ≠ []) :
    bodyLexemes (a :: body) = a.lexemes ++ .bar :: bodyLexemes body := by
  rw [bodyLexemes, List.map_cons, List.intercalate_cons_of_ne_nil (by simpa using h)]
  simp [bodyLexemes]

theorem bodyLexemes_concat (closed : List Alternative) (a : Alternative) :
    bodyLexemes (closed ++ [a]) = closed.flatMap (·.lexemes ++ [.bar]) ++ a.lexemes := by
  induction closed with
  | nil => exact bodyLexemes_singleton a
  | cons b closed ih =>
    rw [List.cons_append, bodyLexemes_cons (by simp), ih, List.flatMap_cons]
    simp

theorem bodyForm_iff {xs : List Lexeme} {literals : List String} {pairs : List Pair} :
    BodyForm xs literals pairs ↔
      ∃ body : List Alternative, body ≠ [] ∧ bodyLexemes body = xs ∧
        body.filterMap Alternative.literal? = literals ∧
        body.filterMap Alternative.pair? = pairs := by
  simp only [List.filterMap_eq_flatMap_toList]
  constructor
  · intro h
    induction h with
    | last alternative =>
      obtain ⟨a, rfl, rfl, rfl⟩ := Alternative.exists_of_form alternative
      exact ⟨[a], by simp, bodyLexemes_singleton a, List.flatMap_singleton ..,
        List.flatMap_singleton ..⟩
    | bar alternative rest ih =>
      obtain ⟨a, rfl, rfl, rfl⟩ := Alternative.exists_of_form alternative
      obtain ⟨body, hne, rfl, rfl, rfl⟩ := ih
      exact ⟨a :: body, by simp, bodyLexemes_cons hne, List.flatMap_cons, List.flatMap_cons⟩
  · intro h
    obtain ⟨body, hne, rfl, rfl, rfl⟩ := h
    induction body with
    | nil => exact (hne rfl).elim
    | cons a body ih =>
      rw [List.flatMap_cons, List.flatMap_cons]
      by_cases hbody : body = []
      · subst hbody
        rw [bodyLexemes_singleton, List.flatMap_nil, List.flatMap_nil, List.append_nil,
          List.append_nil]
        exact .last a.form_lexemes
      · rw [bodyLexemes_cons hbody]
        exact .bar a.form_lexemes (ih hbody)

namespace Rule

/-- The lexemes of a rule, whatever its line. -/
def lexemes (r : Rule) : List Lexeme :=
  [.symbol r.key, .becomes] ++ bodyLexemes r.body ++ [.semicolon]

/-- Every alternative is a literal or a pair. -/
theorem pairs_ne_nil {r : Rule} (hbody : r.body ≠ []) (hliterals : r.literals = []) :
    r.pairs ≠ [] := by
  obtain ⟨line, key, body⟩ := r
  obtain ⟨a, rest, rfl⟩ := List.exists_cons_of_ne_nil hbody
  cases a with
  | literal content => simp [literals, Alternative.literal?] at hliterals
  | pair components => simp [pairs, Alternative.pair?]

theorem form_lexemes (r : Rule) : RuleForm r.lexemes r.productions := by
  obtain ⟨line, key, body⟩ := r
  by_cases hbody : body = []
  · subst hbody
    exact .empty key
  · have hform : BodyForm (bodyLexemes body) (body.filterMap Alternative.literal?)
        (body.filterMap Alternative.pair?) := bodyForm_iff.mpr ⟨body, hbody, rfl, rfl, rfl⟩
    by_cases hliterals : body.filterMap Alternative.literal? = []
    · have hpairs : body.filterMap Alternative.pair? ≠ [] :=
        pairs_ne_nil (r := ⟨line, key, body⟩) hbody hliterals
      rw [hliterals] at hform
      simpa [productions, literals, pairs, hliterals, hpairs, lexemes] using
        RuleForm.pairs key hform
    · simpa [productions, literals, pairs, hliterals, lexemes] using
        RuleForm.literals key hform hliterals

theorem exists_of_form {xs : List Lexeme} {ps : List Production} (h : RuleForm xs ps) :
    ∃ r : Rule, r.lexemes = xs ∧ r.productions = ps := by
  cases h with
  | empty key => exact ⟨⟨0, key, []⟩, rfl, rfl⟩
  | pairs key form =>
    obtain ⟨body, hbody, rfl, hliterals, rfl⟩ := bodyForm_iff.mp form
    have hpairs := pairs_ne_nil (r := ⟨0, key, body⟩) hbody hliterals
    refine ⟨⟨0, key, body⟩, rfl, ?_⟩
    rw [productions, if_neg (by simpa [literals, hliterals] using hpairs)]
    rfl
  | literals key form listed =>
    obtain ⟨body, hbody, rfl, rfl, rfl⟩ := bodyForm_iff.mp form
    refine ⟨⟨0, key, body⟩, rfl, ?_⟩
    rw [productions, if_pos (.inl listed)]
    rfl

end Rule

/-- The format is the lexemes of rules, and what it describes is their productions. -/
theorem grammarForm_iff {xs : List Lexeme} {ps : List Production} :
    GrammarForm xs ps ↔
      ∃ rules : List Rule, rules.flatMap Rule.lexemes = xs ∧
        rules.flatMap Rule.productions = ps := by
  constructor
  · intro h
    induction h with
    | nil => exact ⟨[], rfl, rfl⟩
    | rule first rest ih =>
      obtain ⟨r, rfl, rfl⟩ := Rule.exists_of_form first
      obtain ⟨rules, rfl, rfl⟩ := ih
      exact ⟨r :: rules, List.flatMap_cons, List.flatMap_cons⟩
  · intro h
    obtain ⟨rules, rfl, rfl⟩ := h
    induction rules with
    | nil => exact .nil
    | cons r rules ih => exact .rule r.form_lexemes ih

end ChomskyChart
