import ChomskyChart.Text.Words
import Mathlib.Data.List.DropRight
import Mathlib.Data.List.TakeWhile

/-!
# Words and lines of a text

White space does nothing but separate words: how much of it there is, and where it stands around
them, cannot be told from the words. What a text begins with, apart from white space, is what its
first word begins with.
-/
namespace ChomskyChart

/-- What is taken from the front of a list does not reach into a list that cannot be begun. -/
theorem takeWhile_append_of_head {α : Type} {p : α → Bool} {l after : List α}
    (h : ∀ a ∈ after.head?, p a = false) : (l ++ after).takeWhile p = l.takeWhile p := by
  induction l with
  | nil =>
    cases after with
    | nil => rfl
    | cons a after => exact List.takeWhile_cons_of_neg (by simpa using h a rfl)
  | cons b l ih => rw [List.cons_append, List.takeWhile_cons, List.takeWhile_cons, ih]

theorem dropWhile_append_of_head {α : Type} {p : α → Bool} {l after : List α}
    (h : ∀ a ∈ after.head?, p a = false) : (l ++ after).dropWhile p = l.dropWhile p ++ after := by
  induction l with
  | nil =>
    cases after with
    | nil => rfl
    | cons a after => exact List.dropWhile_cons_of_neg (by simpa using h a rfl)
  | cons b l ih =>
    rw [List.cons_append, List.dropWhile_cons, List.dropWhile_cons, ih]
    split <;> rfl

/-- The first separator of a list is at one place. -/
theorem append_separator_inj {α : Type} {sep : α} {front front' back back' : List α}
    (hfront : sep ∉ front) (hfront' : sep ∉ front')
    (h : front ++ sep :: back = front' ++ sep :: back') : front = front' ∧ back = back' := by
  induction front generalizing front' with
  | nil =>
    cases front' with
    | nil => exact ⟨rfl, (List.cons.inj h).2⟩
    | cons b front' => exact absurd (List.mem_cons.mpr (.inl (List.cons.inj h).1)) hfront'
  | cons a front ih =>
    cases front' with
    | nil => exact absurd (List.mem_cons.mpr (.inl (List.cons.inj h).1.symm)) hfront
    | cons b front' =>
      obtain ⟨rfl, htail⟩ := List.cons.inj h
      rw [List.mem_cons, not_or] at hfront hfront'
      obtain ⟨rfl, hback⟩ := ih hfront.2 hfront'.2 htail
      exact ⟨rfl, hback⟩

/-- Pieces that are ended by a separator can be told apart if none has the separator inside. -/
theorem flatMap_separator_inj {α : Type} {sep : α} {pieces pieces' : List (List α)}
    (hfree : ∀ piece ∈ pieces, sep ∉ piece) (hfree' : ∀ piece ∈ pieces', sep ∉ piece)
    (h : pieces.flatMap (· ++ [sep]) = pieces'.flatMap (· ++ [sep])) : pieces = pieces' := by
  induction pieces generalizing pieces' with
  | nil =>
    cases pieces' with
    | nil => rfl
    | cons piece' pieces' => simp at h
  | cons piece pieces ih =>
    cases pieces' with
    | nil => simp at h
    | cons piece' pieces' =>
      rw [List.forall_mem_cons] at hfree hfree'
      rw [List.flatMap_cons, List.flatMap_cons, List.append_assoc, List.append_assoc,
        List.singleton_append, List.singleton_append] at h
      obtain ⟨rfl, hrest⟩ := append_separator_inj hfree.1 hfree'.1 h
      rw [ih hfree.2 hfree'.2 hrest]

/-- What is in no piece and not between them is not in the whole. -/
theorem notMem_intercalate {α : Type} {a : α} {separator : List α} {pieces : List (List α)}
    (hseparator : a ∉ separator) (h : ∀ piece ∈ pieces, a ∉ piece) :
    a ∉ separator.intercalate pieces := by
  induction pieces with
  | nil => simp [List.intercalate]
  | cons piece pieces ih =>
    rw [List.forall_mem_cons] at h
    rcases pieces with _ | ⟨next, pieces⟩
    · rw [List.intercalate_singleton]
      exact h.1
    · rw [List.intercalate_cons_cons]
      simp [h.1, hseparator, ih h.2]

namespace Text

open Unicode (isWhiteSpace)

/-! ## Words -/

@[simp]
theorem wordsOf_nil : wordsOf [] = [] := by
  rw [wordsOf]

theorem wordsOf_blank {c : Char} (h : isWhiteSpace c = true) (rest : List Char) :
    wordsOf (c :: rest) = wordsOf rest := by
  rw [wordsOf, if_pos h]

theorem wordsOf_letter {c : Char} (h : isWhiteSpace c = false) (rest : List Char) :
    wordsOf (c :: rest) =
      (c :: rest.takeWhile (!isWhiteSpace ·)) :: wordsOf (rest.dropWhile (!isWhiteSpace ·)) := by
  rw [wordsOf, if_neg (Bool.eq_false_iff.mp h)]

/-- Induction along the words of a text and the white space before them. -/
@[elab_as_elim]
theorem words_induction {motive : List Char → Prop} (nil : motive [])
    (blank : ∀ c rest, isWhiteSpace c = true → motive rest → motive (c :: rest))
    (letter : ∀ c rest, isWhiteSpace c = false → motive (rest.dropWhile (!isWhiteSpace ·)) →
      motive (c :: rest))
    (cs : List Char) : motive cs := by
  induction hn : cs.length using Nat.strongRecOn generalizing cs with
  | ind n ih =>
    cases cs with
    | nil => exact nil
    | cons c rest =>
      have hshort := (List.dropWhile_sublist (!isWhiteSpace ·) (l := rest)).length_le
      rw [List.length_cons] at hn
      cases h : isWhiteSpace c with
      | true => exact blank c rest h (ih rest.length (by omega) rest rfl)
      | false => exact letter c rest h (ih _ (by omega) _ rfl)

/-- White space keeps what stands before it apart from what stands behind it. -/
theorem wordsOf_append_blank {b : Char} (hb : isWhiteSpace b = true) (front back : List Char) :
    wordsOf (front ++ b :: back) = wordsOf front ++ wordsOf back := by
  induction front using words_induction with
  | nil => rw [List.nil_append, wordsOf_blank hb, wordsOf_nil, List.nil_append]
  | blank c rest hc ih => rw [List.cons_append, wordsOf_blank hc, wordsOf_blank hc, ih]
  | letter c rest hc ih =>
    have hhead : ∀ a ∈ (b :: back).head?, (!isWhiteSpace a) = false := by simp [hb]
    rw [List.cons_append, wordsOf_letter hc, wordsOf_letter hc, takeWhile_append_of_head hhead,
      dropWhile_append_of_head hhead, ih, List.cons_append]

/-- Characters without white space among them are one word. -/
theorem wordsOf_word {cs : List Char} (hne : cs ≠ []) (h : ∀ c ∈ cs, isWhiteSpace c = false) :
    wordsOf cs = [cs] := by
  cases cs with
  | nil => exact absurd rfl hne
  | cons c rest =>
    obtain ⟨hc, hrest⟩ := List.forall_mem_cons.mp h
    have hall : ∀ a ∈ rest, (!isWhiteSpace a) = true := fun a ha => by rw [hrest a ha]; rfl
    rw [wordsOf_letter hc, List.takeWhile_eq_self_iff.mpr hall, List.dropWhile_eq_nil_iff.mpr hall,
      wordsOf_nil]

/-- No word has white space inside. -/
theorem isWhiteSpace_of_mem_wordsOf {cs word : List Char} (h : word ∈ wordsOf cs) :
    ∀ c ∈ word, isWhiteSpace c = false := by
  induction cs using words_induction with
  | nil =>
    rw [wordsOf_nil] at h
    cases h
  | blank c rest hc ih =>
    rw [wordsOf_blank hc] at h
    exact ih h
  | letter c rest hc ih =>
    rw [wordsOf_letter hc] at h
    rcases List.mem_cons.mp h with rfl | h
    · refine List.forall_mem_cons.mpr ⟨hc, fun d hd => ?_⟩
      simpa using List.mem_takeWhile_imp hd
    · exact ih h

/-- By `all`, since deciding `∀ c` can go through all characters. -/
theorem forall_isWhiteSpace_eq_false_iff {cs : List Char} :
    (∀ c ∈ cs, isWhiteSpace c = false) ↔ cs.all (!isWhiteSpace ·) = true := by
  simp

/-- Nothing but white space is lost. -/
theorem mem_flatten_wordsOf_iff {c : Char} (hc : isWhiteSpace c = false) (cs : List Char) :
    c ∈ (wordsOf cs).flatten ↔ c ∈ cs := by
  induction cs using words_induction with
  | nil => rw [wordsOf_nil, List.flatten_nil]
  | blank b rest hb ih =>
    have hne : c ≠ b := by
      rintro rfl
      rw [hb] at hc
      cases hc
    rw [wordsOf_blank hb, ih, List.mem_cons, or_iff_right hne]
  | letter d rest hd ih =>
    rw [wordsOf_letter hd, List.flatten_cons, List.mem_append, ih, ← List.mem_append,
      List.cons_append, List.takeWhile_append_dropWhile]

/-! ## The first character -/

/-- A text begins, behind its white space, with the first character of its first word. -/
theorem head?_dropWhile_isWhiteSpace (cs : List Char) :
    (cs.dropWhile isWhiteSpace).head? = (wordsOf cs).head?.bind List.head? := by
  induction cs with
  | nil => rw [wordsOf_nil]; rfl
  | cons c rest ih =>
    cases hc : isWhiteSpace c with
    | true => rw [List.dropWhile_cons_of_pos hc, wordsOf_blank hc, ih]
    | false =>
      rw [List.dropWhile_cons_of_neg (Bool.eq_false_iff.mp hc), wordsOf_letter hc]
      rfl

/-- Trimming the end of a text does not touch what the text begins with. -/
theorem head?_trim (cs : List Char) : (trim cs).head? = (wordsOf cs).head?.bind List.head? := by
  rw [← head?_dropWhile_isWhiteSpace]
  have htrim : trim cs = (cs.dropWhile isWhiteSpace).rdropWhile isWhiteSpace := rfl
  rw [htrim]
  cases hcs : cs.dropWhile isWhiteSpace with
  | nil => rfl
  | cons c rest =>
    have hc : isWhiteSpace c = false := by
      have := List.head_dropWhile_not isWhiteSpace (l := cs) (by simp [hcs])
      simpa [hcs] using this
    have hpre := List.rdropWhile_prefix isWhiteSpace (c :: rest)
    cases hr : (c :: rest).rdropWhile isWhiteSpace with
    | nil =>
      have := List.rdropWhile_eq_nil_iff.mp hr c List.mem_cons_self
      rw [hc] at this
      cases this
    | cons d back =>
      rw [hr] at hpre
      rw [(List.cons_prefix_cons.mp hpre).1]
      rfl

/-- A text that neither begins nor ends with white space is trimmed already. -/
theorem trim_eq_self {c d : Char} {middle : List Char} (hc : isWhiteSpace c = false)
    (hd : isWhiteSpace d = false) : trim (c :: middle ++ [d]) = c :: middle ++ [d] := by
  have hfirst : ((c :: middle) ++ [d]).dropWhile isWhiteSpace = c :: middle ++ [d] := by
    rw [List.cons_append, List.dropWhile_cons_of_neg (Bool.eq_false_iff.mp hc)]
  have htrim : trim (c :: middle ++ [d]) =
      ((c :: middle ++ [d]).dropWhile isWhiteSpace).rdropWhile isWhiteSpace := rfl
  rw [htrim, hfirst, List.rdropWhile_concat_neg _ _ _ (Bool.eq_false_iff.mp hd)]

/-! ## Lines -/

theorem linesOf_append_newline {front : List Char} (h : '\n' ∉ front) (back : List Char) :
    linesOf (front ++ '\n' :: back) = front :: linesOf back := by
  induction front with
  | nil => rw [List.nil_append, linesOf, if_pos rfl]
  | cons c front ih =>
    rw [List.mem_cons, not_or] at h
    obtain ⟨hc, hfront⟩ := h
    rw [List.cons_append, linesOf, if_neg (Ne.symm hc), ih hfront]

end Text

end ChomskyChart
