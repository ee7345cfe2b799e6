import ChomskyChart.Proofs.Chart.Exchange
import ChomskyChart.Proofs.Reading.Text
import ChomskyChart.Proofs.Tree.Traversal
import ChomskyChart.Text.Words
import ChomskyChart.Tree.Drawing

/-!
# The bracketed form

Tokens may be made of brackets, so the brackets of the form need not match. But the words of the
form tell what they are: a word without a closing bracket begins a node, and a word with one ends a
leaf. This settles the shape of the tree, the shape settles how many brackets are closed behind a
token, and what is left of the word is the token.
-/
namespace ChomskyChart

/-- What the bracketed form shows of a tree: its shape, the key of every node and the token of every
leaf. -/
inductive Outline
  | leaf (key token : String)
  | branch (key : String) (left right : Outline)
deriving DecidableEq

namespace Tree

def outline : Tree → Outline
  | leaf p token => .leaf p.key token
  | branch p left right => .branch p.key left.outline right.outline

/-- No key has a blank or a closing bracket, and no token has a blank. -/
def Plain (t : Tree) : Prop :=
  (∀ key ∈ t.productionKeys, ' ' ∉ key.toList ∧ ')' ∉ key.toList) ∧
    ∀ token ∈ t.tokens, ' ' ∉ token.toList

instance : DecidablePred Plain := fun t =>
  inferInstanceAs (Decidable
    ((∀ key ∈ t.productionKeys, ' ' ∉ key.toList ∧ ')' ∉ key.toList) ∧
      ∀ token ∈ t.tokens, ' ' ∉ token.toList))

/-- The words of the bracketed form when more brackets are closed behind it. Every node begins with
a word, and every leaf ends with one, which has all brackets that are closed there. -/
def bracketWords : Tree → Nat → List (List Char)
  | leaf p token, closed =>
    ['(' :: p.key.toList, token.toList ++ List.replicate (closed + 1) ')']
  | branch p left right, closed =>
    ('(' :: p.key.toList) :: (left.bracketWords 0 ++ right.bracketWords (closed + 1))

variable {t u left right : Tree} {p : Production} {token : String} {closed : Nat}

theorem plain_leaf_iff :
    (leaf p token).Plain ↔
      (' ' ∉ p.key.toList ∧ ')' ∉ p.key.toList) ∧ ' ' ∉ token.toList := by
  simp [Plain, productionKeys, tokens]

theorem plain_branch_iff :
    (branch p left right).Plain ↔
      (' ' ∉ p.key.toList ∧ ')' ∉ p.key.toList) ∧ left.Plain ∧ right.Plain := by
  simp only [Plain, productionKeys, tokens, List.forall_mem_cons, List.forall_mem_append]
  constructor
  · intro h
    obtain ⟨⟨hkey, hkeysl, hkeysr⟩, hl, hr⟩ := h
    exact ⟨hkey, ⟨hkeysl, hl⟩, hkeysr, hr⟩
  · intro h
    obtain ⟨hkey, ⟨hkeysl, hl⟩, hkeysr, hr⟩ := h
    exact ⟨⟨hkey, hkeysl, hkeysr⟩, hl, hr⟩

/-- The bracketed form is its words with blanks between them. -/
theorem flatMap_bracketWords (t : Tree) (closed : Nat) :
    (t.bracketWords closed).flatMap (· ++ [' ']) =
      t.text.toList ++ List.replicate closed ')' ++ [' '] := by
  induction t generalizing closed with
  | leaf p token => simp [bracketWords, text, List.replicate_succ]
  | branch p left right ihl ihr =>
    rw [bracketWords, List.flatMap_cons, List.flatMap_append, ihl, ihr]
    simp [text, List.replicate_succ]

theorem Plain.blank_notMem (h : t.Plain) : ∀ word ∈ t.bracketWords closed, ' ' ∉ word := by
  induction t generalizing closed with
  | leaf p token =>
    obtain ⟨⟨hkey, -⟩, htoken⟩ := plain_leaf_iff.mp h
    simp [bracketWords, hkey, htoken]
  | branch p left right ihl ihr =>
    obtain ⟨⟨hkey, -⟩, hl, hr⟩ := plain_branch_iff.mp h
    intro word hword
    rcases List.mem_cons.mp hword with rfl | hword
    · simpa using hkey
    · rcases List.mem_append.mp hword with hword | hword
      · exact ihl hl word hword
      · exact ihr hr word hword

/-- A node begins with a word that does not close a bracket. -/
theorem Plain.head?_bracketWords (h : t.Plain) :
    ∃ word ∈ (t.bracketWords closed).head?, ')' ∉ word := by
  cases t with
  | leaf p token => exact ⟨_, rfl, by simpa using (plain_leaf_iff.mp h).1.2⟩
  | branch p left right => exact ⟨_, rfl, by simpa using (plain_branch_iff.mp h).1.2⟩

/-- A leaf and a branch differ in their second words, if not before. -/
theorem Plain.bracketWords_leaf_ne_branch {q : Production} (hleft : left.Plain)
    {rest rest' : List (List Char)} :
    (leaf p token).bracketWords closed ++ rest ≠
      (branch q left right).bracketWords closed ++ rest' := by
  intro h
  obtain ⟨word, hword, hopen⟩ : ∃ word ∈ (left.bracketWords 0).head?, ')' ∉ word :=
    hleft.head?_bracketWords
  obtain ⟨words, hwords⟩ := List.head?_eq_some_iff.mp hword
  rw [bracketWords, bracketWords, hwords] at h
  obtain rfl : token.toList ++ List.replicate (closed + 1) ')' = word :=
    (List.cons.inj (List.cons.inj h).2).1
  simp at hopen

/-- Trees whose words start alike have the same outline and stop at the same place. -/
theorem Plain.outline_eq_of_bracketWords (ht : t.Plain) (hu : u.Plain)
    {rest rest' : List (List Char)}
    (h : t.bracketWords closed ++ rest = u.bracketWords closed ++ rest') :
    t.outline = u.outline ∧ rest = rest' := by
  induction t generalizing u closed rest rest' with
  | leaf p token =>
    cases u with
    | leaf q token' =>
      obtain ⟨hkey, h⟩ := List.cons.inj h
      obtain ⟨htoken, hrest⟩ := List.cons.inj h
      have hkey : p.key = q.key := String.toList_inj.mp (List.cons.inj hkey).2
      -- as many brackets are closed behind the one token as behind the other one
      have htoken : token = token' := String.toList_inj.mp (List.append_cancel_right htoken)
      rw [outline, outline, hkey, htoken]
      exact ⟨rfl, hrest⟩
    | branch q left' right' =>
      exact absurd h (plain_branch_iff.mp hu).2.1.bracketWords_leaf_ne_branch
  | branch p left right ihl ihr =>
    obtain ⟨-, hleft, hright⟩ := plain_branch_iff.mp ht
    cases u with
    | leaf q token' => exact absurd h.symm hleft.bracketWords_leaf_ne_branch
    | branch q left' right' =>
      obtain ⟨-, hleft', hright'⟩ := plain_branch_iff.mp hu
      obtain ⟨hkey, h⟩ := List.cons.inj h
      have hkey : p.key = q.key := String.toList_inj.mp (List.cons.inj hkey).2
      rw [List.append_eq, List.append_eq, List.append_assoc, List.append_assoc] at h
      -- the bracket of the branch is closed behind its right child
      obtain ⟨houtline, h⟩ := ihl hleft hleft' h
      obtain ⟨houtline', hrest⟩ := ihr hright hright' h
      rw [outline, outline, hkey, houtline, houtline']
      exact ⟨rfl, hrest⟩

theorem Plain.outline_eq_of_text_eq (ht : t.Plain) (hu : u.Plain) (h : t.text = u.text) :
    t.outline = u.outline := by
  have hpieces : (t.bracketWords 0).flatMap (· ++ [' ']) =
      (u.bracketWords 0).flatMap (· ++ [' ']) := by
    rw [flatMap_bracketWords, flatMap_bracketWords, h]
  have hwords := flatMap_separator_inj ht.blank_notMem hu.blank_notMem hpieces
  exact (ht.outline_eq_of_bracketWords hu (congrArg (· ++ []) hwords)).1

/-- The bracketed form shows the outline and nothing else. -/
theorem text_eq_of_outline_eq (h : t.outline = u.outline) : t.text = u.text := by
  induction t generalizing u with
  | leaf p token =>
    cases u with
    | leaf q token' =>
      obtain ⟨hkey, rfl⟩ := Outline.leaf.inj h
      rw [text, text, hkey]
    | branch => cases h
  | branch p left right ihl ihr =>
    cases u with
    | leaf => cases h
    | branch q left' right' =>
      obtain ⟨hkey, hleft, hright⟩ := Outline.branch.inj h
      rw [text, text, hkey, ihl hleft, ihr hright]

/-- Texts of grammars name symbols only, and sentences are cut at white space. -/
theorem plain_of_mem_cell {source sentence : String} {g : Grammar}
    (hg : Grammar.ofText source = .ok g) {start stop : Nat}
    (ht : t ∈ (g.chart (Text.words sentence)).cell start stop) : t.Plain := by
  have hbracket : Lexeme.isSymbolChar ')' = false := by decide +kernel
  constructor
  · intro key hkey
    rw [productionKeys_eq_map_preorder] at hkey
    obtain ⟨s, hs, rfl⟩ := List.mem_map.mp hkey
    obtain ⟨x, hx, rfl⟩ := List.mem_map.mp hs
    have hcell := Grammar.mem_cell_of_occurs ht (mem_preorder_iff.mp hx)
    have hsymbol : IsSymbol x.subtree.key := Grammar.isSymbol_of_ofText hg
      (Grammar.production_mem_of_mem_cell hcell) (Production.key_mem_names _)
    exact ⟨hsymbol.blank_notMem, hsymbol.notMem hbracket⟩
  · intro token htoken hmem
    rw [Grammar.tokens_of_mem_cell ht, List.extract_eq_take_drop] at htoken
    obtain ⟨word, hword, rfl⟩ :=
      List.mem_map.mp (List.mem_of_mem_drop (List.mem_of_mem_take htoken))
    rw [String.toList_ofList] at hmem
    have hwhite := Text.isWhiteSpace_of_mem_wordsOf hword ' ' hmem
    exact absurd hwhite (by decide +kernel)

/-- Two trees with the same bracketed form have the same shape, the same key at every node and the
same token at every leaf, provided that no key has a blank or a closing bracket and no token has a
blank. This is so if the grammar is read from a text and the sentence is cut into words. -/
theorem text_eq_iff_outline_eq :
    (∀ t u : Tree, t.Plain → u.Plain → (t.text = u.text ↔ t.outline = u.outline)) ∧
      ∀ (source sentence : String) (g : Grammar), Grammar.ofText source = .ok g →
        ∀ (start stop : Nat), ∀ t ∈ (g.chart (Text.words sentence)).cell start stop, t.Plain := by
  constructor
  · intro t u ht hu
    exact ⟨ht.outline_eq_of_text_eq hu, text_eq_of_outline_eq⟩
  · intro source sentence g hg start stop t ht
    exact plain_of_mem_cell hg ht

/-- A blank inside a token would let a leaf pass for a branch. -/
example :
    (leaf (.terminal "S" []) "(N a) (N b)").text =
      (branch (.nonterminal "S" "N" "N") (leaf (.terminal "N" []) "a")
        (leaf (.terminal "N" []) "b")).text := by
  decide

def brackets : Grammar := .ofList [.terminal "N" ["(N", ")"], .nonterminal "N" "N" "N"]

/-- A branch over two leaves whose tokens are brackets, of a production for these tokens. -/
def closing (p : Production) : Tree :=
  .branch (.nonterminal "N" "N" "N") (.leaf p ")") (.leaf p "(N")

theorem text_eq_iff_outline_eq_brackets :
    (closing (.terminal "N" [])).Plain ∧ (closing (.terminal "N" ["(N", ")"])).Plain ∧
      ((closing (.terminal "N" [])).text = (closing (.terminal "N" ["(N", ")"])).text ↔
        (closing (.terminal "N" [])).outline = (closing (.terminal "N" ["(N", ")"])).outline) ∧
      Grammar.ofText "N := '(N' | ')' | N N ;" = .ok brackets ∧
      closing (.terminal "N" ["(N", ")"]) ∈
        (brackets.chart (Text.words " (N ) (N ")).cell 1 3 ∧
      (closing (.terminal "N" ["(N", ")"])).Plain := by
  have hfirst : (closing (.terminal "N" [])).Plain := by decide
  have hsecond : (closing (.terminal "N" ["(N", ")"])).Plain := by decide
  have hg : Grammar.ofText "N := '(N' | ')' | N N ;" = .ok brackets :=
    Grammar.eq_ok_iff_map_toList.mpr (by decide +kernel)
  have hcell : closing (.terminal "N" ["(N", ")"]) ∈
      (brackets.chart (Text.words " (N ) (N ")).cell 1 3 := by
    decide +kernel
  exact ⟨hfirst, hsecond, text_eq_iff_outline_eq.1 _ _ hfirst hsecond, hg, hcell,
    text_eq_iff_outline_eq.2 _ _ _ hg 1 3 _ hcell⟩

end Tree

end ChomskyChart
