import ChomskyChart.Proofs.Reading.Text
import ChomskyChart.Proofs.Text.Quoted

/-!
# Printed grammars

A printed production names its symbols as they are and quotes its literals. A symbol has no blank,
so the key ends at the first blank of the line, and no symbol begins with a quote, so what is behind
the arrow shows whether the production is terminal. A grammar is printed with one line for every
production. So the productions, with the order and the repeats of their literals, can be told from
what is printed.
-/
namespace ChomskyChart

/-! ## Literals -/

/-- The literals behind the first one, each after a bar. -/
def barred (literals : List String) : List Char :=
  literals.flatMap fun literal => ' ' :: '|' :: ' ' :: (Text.quoted literal).toList

theorem barred_injective : Function.Injective barred := by
  intro literals literals' h
  induction literals generalizing literals' with
  | nil =>
    cases literals' with
    | nil => rfl
    | cons literal' literals' => cases h
  | cons literal literals ih =>
    cases literals' with
    | nil => cases h
    | cons literal' literals' =>
      simp only [barred, List.flatMap_cons, List.cons_append, List.cons.injEq, true_and] at h
      obtain ⟨rfl, hrest⟩ := Text.quoted_append_inj h
      rw [ih hrest]

namespace Body

theorem toList_text_cons (literal : String) (literals : List String) :
    (terminal (literal :: literals)).text.toList =
      (Text.quoted literal).toList ++ barred literals := by
  rw [text, String.toList_intercalate]
  induction literals generalizing literal with
  | nil => simp [barred]
  | cons next literals ih =>
    rw [List.map_cons, List.map_cons, List.map_cons, List.map_cons, List.intercalate_cons_cons,
      ← List.map_cons, ← List.map_cons, ih]
    simp [barred]

theorem toList_text_nonterminal (left right : String) :
    (nonterminal left right).text.toList = left.toList ++ ' ' :: right.toList := by
  simp [text]

theorem terminal_eq_of_text_eq {literals literals' : List String}
    (h : (terminal literals).text = (terminal literals').text) : literals = literals' := by
  have hchars := congrArg String.toList h
  cases literals with
  | nil =>
    cases literals' with
    | nil => rfl
    | cons literal' literals' =>
      rw [toList_text_cons, Text.toList_quoted] at hchars
      simp [text] at hchars
  | cons literal literals =>
    cases literals' with
    | nil =>
      rw [toList_text_cons, Text.toList_quoted] at hchars
      simp [text] at hchars
    | cons literal' literals' =>
      rw [toList_text_cons, toList_text_cons] at hchars
      obtain ⟨rfl, hrest⟩ := Text.quoted_append_inj hchars
      rw [barred_injective hrest]

/-- Literals begin with a quote if there are any, and a symbol does not. -/
theorem terminal_text_ne_nonterminal {literals : List String} {left : String} (hleft : IsSymbol left)
    (right : String) : (terminal literals).text ≠ (nonterminal left right).text := by
  intro h
  have hchars := congrArg String.toList h
  rw [toList_text_nonterminal] at hchars
  cases literals with
  | nil => simp [text] at hchars
  | cons literal literals =>
    rw [toList_text_cons, Text.toList_quoted] at hchars
    obtain ⟨hne, hsymbol⟩ := hleft
    obtain ⟨c, cs, hname⟩ : ∃ c cs, left.toList = c :: cs :=
      List.exists_cons_of_ne_nil (by simpa using hne)
    rw [hname] at hchars hsymbol
    have hquote : Lexeme.isSymbolChar '"' = true := by
      rw [(List.cons.inj hchars).1]
      exact hsymbol c List.mem_cons_self
    rw [Lexeme.isSymbolChar_of_mark (by simp)] at hquote
    cases hquote

end Body

/-! ## Productions -/

namespace Production

variable {p q : Production}

/-- A production shows its symbols as they are and its literals in quotes. -/
theorem newline_notMem_text (h : ∀ name ∈ p.names, '\n' ∉ name.toList) :
    '\n' ∉ p.text.toList := by
  have hbody : '\n' ∉ p.body.text.toList := by
    obtain ⟨key, body⟩ := p
    cases body with
    | terminal literals =>
      rw [Body.text, String.toList_intercalate]
      refine notMem_intercalate (by decide) fun piece hpiece => ?_
      simp only [List.map_map, List.mem_map, Function.comp_apply] at hpiece
      obtain ⟨literal, -, rfl⟩ := hpiece
      exact Text.newline_notMem_quoted literal
    | nonterminal left right =>
      simp only [Production.names, List.forall_mem_cons] at h
      simp [Body.text, h.2.1, h.2.2.1]
  simp [Production.text, h _ p.key_mem_names, hbody]

theorem key_eq_and_body_text_eq (hp : IsSymbol p.key) (hq : IsSymbol q.key) (h : p.text = q.text) :
    p.key = q.key ∧ p.body.text = q.body.text := by
  have hline (r : Production) :
      r.text.toList = r.key.toList ++ ' ' :: ('-' :: '>' :: ' ' :: r.body.text.toList) := by
    simp [text]
  have hchars := congrArg String.toList h
  rw [hline, hline] at hchars
  obtain ⟨hkey, hbody⟩ := append_separator_inj hp.blank_notMem hq.blank_notMem hchars
  simp only [List.cons.injEq, true_and] at hbody
  exact ⟨String.toList_inj.mp hkey, String.toList_inj.mp hbody⟩

/-- What is printed for a production shows the production. -/
theorem eq_of_text_eq (hp : ∀ name ∈ p.names, IsSymbol name) (hq : ∀ name ∈ q.names, IsSymbol name)
    (h : p.text = q.text) : p = q := by
  obtain ⟨hkey, hbody⟩ := key_eq_and_body_text_eq (hp _ p.key_mem_names) (hq _ q.key_mem_names) h
  obtain ⟨key, body⟩ := p
  obtain ⟨key', body'⟩ := q
  obtain rfl : key = key' := hkey
  cases body with
  | terminal literals =>
    cases body' with
    | terminal literals' => rw [Body.terminal_eq_of_text_eq hbody]
    | nonterminal left' right' =>
      exact absurd hbody (Body.terminal_text_ne_nonterminal (hq left' (by simp [names])) right')
  | nonterminal left right =>
    have hleft : IsSymbol left := hp left (by simp [names])
    cases body' with
    | terminal literals' =>
      exact absurd hbody.symm (Body.terminal_text_ne_nonterminal hleft right)
    | nonterminal left' right' =>
      have hleft' : IsSymbol left' := hq left' (by simp [names])
      have hchars := congrArg String.toList hbody
      rw [Body.toList_text_nonterminal, Body.toList_text_nonterminal] at hchars
      obtain ⟨hl, hr⟩ := append_separator_inj hleft.blank_notMem hleft'.blank_notMem hchars
      rw [String.toList_inj.mp hl, String.toList_inj.mp hr]

end Production

/-! ## Grammars -/

/-- The lines of a printed grammar, without their ends, show its productions. -/
theorem Production.eq_of_map_text_eq {ps qs : List Production}
    (hps : ∀ p ∈ ps, ∀ name ∈ p.names, IsSymbol name)
    (hqs : ∀ q ∈ qs, ∀ name ∈ q.names, IsSymbol name)
    (h : ps.map (·.text.toList) = qs.map (·.text.toList)) : ps = qs := by
  induction ps generalizing qs with
  | nil => exact (List.map_eq_nil_iff.mp h.symm).symm
  | cons p ps ih =>
    obtain ⟨q, qs, rfl, htext, hrest⟩ := List.map_eq_cons_iff.mp h.symm
    obtain ⟨hp, hps⟩ := List.forall_mem_cons.mp hps
    obtain ⟨hq, hqs⟩ := List.forall_mem_cons.mp hqs
    rw [eq_of_text_eq hp hq (String.toList_inj.mp htext.symm), ih hps hqs hrest.symm]

namespace Grammar

theorem toList_text (g : Grammar) :
    g.text.toList = (g.toList.map (·.text.toList)).flatMap (· ++ ['\n']) := by
  rw [text, String.toList_join, List.flatMap_map, List.flatMap_map]
  simp

/-- Grammars whose symbols are spelled with symbol characters are printed alike if and only if they
have the same productions in the same order, with the same literals in the same order. The symbols
of a grammar that is read from a text are spelled so. -/
theorem text_eq_iff_productions_eq :
    (∀ ps qs : List Production, (∀ p ∈ ps, ∀ name ∈ p.names, IsSymbol name) →
        (∀ q ∈ qs, ∀ name ∈ q.names, IsSymbol name) →
        ((ofList ps).text = (ofList qs).text ↔ ps = qs)) ∧
      ∀ (source : String) (g : Grammar), ofText source = .ok g →
        ∀ p ∈ g.toList, ∀ name ∈ p.names, IsSymbol name := by
  refine ⟨fun ps qs hps hqs => ⟨fun h => ?_, fun h => h ▸ rfl⟩, ?_⟩
  · have hlines := congrArg String.toList h
    rw [toList_text, toList_text, toList_ofList, toList_ofList] at hlines
    have hfree : ∀ rs : List Production, (∀ r ∈ rs, ∀ name ∈ r.names, IsSymbol name) →
        ∀ line ∈ rs.map (·.text.toList), '\n' ∉ line := by
      intro rs hrs line hline
      obtain ⟨r, hr, rfl⟩ := List.mem_map.mp hline
      exact Production.newline_notMem_text fun name hname => (hrs r hr name hname).newline_notMem
    exact Production.eq_of_map_text_eq hps hqs
      (flatMap_separator_inj (hfree ps hps) (hfree qs hqs) hlines)
  · intro source g hg p hp name hname
    exact isSymbol_of_ofText hg hp hname

/-- A blank inside a symbol would let one component end earlier or later. -/
example : (Production.nonterminal "S" "A B" "C").text = (Production.nonterminal "S" "A" "B C").text :=
  by decide

/-- The key and the components are arrows, and the literals of one rule look like those of the other
one with a bar in between. -/
def arrows (literals : List String) : List Production :=
  [.terminal "->" literals, .nonterminal "->" "->" "->", .terminal "->" []]

theorem text_eq_iff_productions_eq_arrows :
    (∀ p ∈ arrows ["a", "b"], ∀ name ∈ p.names, IsSymbol name) ∧
      (∀ q ∈ arrows ["a\" | \"b"], ∀ name ∈ q.names, IsSymbol name) ∧
      ((ofList (arrows ["a", "b"])).text = (ofList (arrows ["a\" | \"b"])).text ↔
        arrows ["a", "b"] = arrows ["a\" | \"b"]) ∧
      ofText "S := S S | \"a\\\"\" ;" =
        .ok (ofList [.terminal "S" ["a\""], .nonterminal "S" "S" "S"]) ∧
      ∀ name ∈ (Production.nonterminal "S" "S" "S").names, IsSymbol name := by
  have harrows : ∀ p ∈ arrows ["a", "b"], ∀ name ∈ p.names, IsSymbol name := by decide +kernel
  have harrows' : ∀ q ∈ arrows ["a\" | \"b"], ∀ name ∈ q.names, IsSymbol name := by
    decide +kernel
  have hread : ofText "S := S S | \"a\\\"\" ;" =
      .ok (ofList [.terminal "S" ["a\""], .nonterminal "S" "S" "S"]) :=
    eq_ok_iff_map_toList.mpr (by decide +kernel)
  exact ⟨harrows, harrows', text_eq_iff_productions_eq.1 _ _ harrows harrows', hread,
    text_eq_iff_productions_eq.2 _ _ hread _ (by simp)⟩

end Grammar

end ChomskyChart
