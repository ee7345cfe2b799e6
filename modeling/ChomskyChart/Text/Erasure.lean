import ChomskyChart.Text.Clusters

/-!
# Erased characters

A backspace in a line takes back the cluster before it, or nothing at the start of the line.
How much to take back is noted in one byte for each cluster, so of a cluster of 256 bytes or more
it takes back only what is over a multiple of 256, from its end. If that cuts a character apart
the line has no meaning.
-/
namespace ChomskyChart.Text

def backspace : Char := '\x08'

/-- The length of a text in UTF-8. -/
def byteSize : List Char → Nat
  | [] => 0
  | c :: cs => c.utf8Size + byteSize cs

/-- What is left without the first `n` bytes, if no character is cut apart. -/
def dropBytes? (n : Nat) : List Char → Option (List Char)
  | [] => if n = 0 then some [] else none
  | c :: cs =>
    if n = 0 then some (c :: cs)
    else if c.utf8Size ≤ n then dropBytes? (n - c.utf8Size) cs
    else none

/-- What a line has kept so far: its characters, the last one first, and for each cluster that
can still be taken back the number of bytes to take, the last cluster first. -/
structure Kept where
  text : List Char := []
  sizes : List Nat := []
deriving DecidableEq

def Kept.push (kept : Kept) (cluster : List Char) : Kept :=
  ⟨cluster.reverse ++ kept.text, byteSize cluster % 256 :: kept.sizes⟩

def Kept.takeBack? (kept : Kept) : Option Kept :=
  match kept.sizes with
  | [] => some kept
  | n :: sizes => (dropBytes? n kept.text).map (⟨·, sizes⟩)

def Kept.next? (kept : Kept) (cluster : List Char) : Option Kept :=
  if cluster = [backspace] then kept.takeBack? else some (kept.push cluster)

def erase? (line : List Char) : Option (List Char) :=
  ((clusters line).foldlM Kept.next? {}).map (·.text.reverse)

/-- A line after its backspaces have had their effect. -/
def erased? (line : String) : Option String := (erase? line.toList).map String.ofList

theorem byteSize_append (front cs : List Char) :
    byteSize (front ++ cs) = byteSize front + byteSize cs := by
  induction front with
  | nil => rw [List.nil_append, byteSize, Nat.zero_add]
  | cons c front ih => rw [List.cons_append, byteSize, ih, byteSize, Nat.add_assoc]

theorem byteSize_reverse (cs : List Char) : byteSize cs.reverse = byteSize cs := by
  induction cs with
  | nil => rfl
  | cons c cs ih =>
    rw [List.reverse_cons, byteSize_append, ih, byteSize, byteSize, byteSize, Nat.add_zero,
      Nat.add_comm]

theorem dropBytes?_byteSize_append (front cs : List Char) :
    dropBytes? (byteSize front) (front ++ cs) = some cs := by
  induction front with
  | nil => cases cs <;> rfl
  | cons c front ih =>
    have := c.utf8Size_pos
    simp [dropBytes?, byteSize, ih, Nat.ne_of_gt this]

/-- A backspace undoes a cluster of less than 256 bytes. -/
theorem Kept.takeBack?_push (kept : Kept) {cluster : List Char} (h : byteSize cluster < 256) :
    (kept.push cluster).takeBack? = some kept := by
  have := dropBytes?_byteSize_append cluster.reverse kept.text
  rw [byteSize_reverse] at this
  simp [push, takeBack?, Nat.mod_eq_of_lt h, this]

theorem foldlM_next? {rest : List (List Char)} (kept : Kept) (h : ∀ c ∈ rest, c ≠ [backspace]) :
    ∃ sizes, rest.foldlM Kept.next? kept = some ⟨rest.flatten.reverse ++ kept.text, sizes⟩ := by
  induction rest generalizing kept with
  | nil => exact ⟨kept.sizes, rfl⟩
  | cons c rest ih =>
    obtain ⟨sizes, hs⟩ := ih (kept.push c) fun d hd => h d (List.mem_cons_of_mem _ hd)
    refine ⟨sizes, ?_⟩
    have hc : kept.next? c = some (kept.push c) := if_neg (h c List.mem_cons_self)
    rw [List.foldlM_cons, hc]
    exact hs.trans (by simp [Kept.push])

/-- Without a backspace a line stays as it is. -/
theorem erase?_eq_self {line : List Char} (h : backspace ∉ line) : erase? line = some line := by
  have hc : ∀ c ∈ clusters line, c ≠ [backspace] := by
    rintro c hc rfl
    exact h (flatten_clusters line ▸ List.mem_flatten.mpr ⟨_, hc, List.mem_singleton_self _⟩)
  obtain ⟨sizes, hs⟩ := foldlM_next? {} hc
  simp [erase?, hs, flatten_clusters]

/-! ### Lines of short clusters -/

/-- A pile of clusters with one more on top, or without its top. -/
def pile (stack : List (List Char)) (cluster : List Char) : List (List Char) :=
  if cluster = [backspace] then stack.tail else cluster :: stack

def Kept.ofStack (stack : List (List Char)) : Kept :=
  stack.foldr (fun cluster kept => kept.push cluster) {}

theorem Kept.next?_ofStack {stack : List (List Char)} (h : ∀ c ∈ stack, byteSize c < 256)
    (cluster : List Char) : (ofStack stack).next? cluster = some (ofStack (pile stack cluster)) := by
  by_cases hc : cluster = [backspace]
  · cases stack with
    | nil => simp [next?, pile, hc, ofStack, takeBack?]
    | cons top stack =>
      simpa [next?, pile, hc, ofStack] using takeBack?_push (ofStack stack) (h top List.mem_cons_self)
  · simp [next?, pile, hc, ofStack]

theorem foldlM_next?_ofStack {rest stack : List (List Char)} (hr : ∀ c ∈ rest, byteSize c < 256)
    (hs : ∀ c ∈ stack, byteSize c < 256) :
    rest.foldlM Kept.next? (.ofStack stack) = some (.ofStack (rest.foldl pile stack)) := by
  induction rest generalizing stack with
  | nil => rfl
  | cons c rest ih =>
    rw [List.foldlM_cons, Kept.next?_ofStack hs]
    refine ih (fun d hd => hr d (List.mem_cons_of_mem _ hd)) fun d hd => ?_
    unfold pile at hd
    split at hd
    · exact hs d (List.mem_of_mem_tail hd)
    · rcases List.mem_cons.mp hd with rfl | hd
      · exact hr d List.mem_cons_self
      · exact hs d hd

theorem Kept.reverse_text_ofStack (stack : List (List Char)) :
    (ofStack stack).text.reverse = stack.reverse.flatten := by
  induction stack with
  | nil => rfl
  | cons c stack ih =>
    have hc : (ofStack (c :: stack)).text = c.reverse ++ (ofStack stack).text := rfl
    simp [hc, ih]

/-- If every cluster has less than 256 bytes, each backspace takes back one whole cluster. -/
theorem erase?_of_short {line : List Char} (h : ∀ c ∈ clusters line, byteSize c < 256) :
    erase? line = some ((clusters line).foldl pile []).reverse.flatten := by
  rw [erase?, show ({} : Kept) = .ofStack [] from rfl, foldlM_next?_ofStack h (by simp)]
  simp [Kept.reverse_text_ofStack]

end ChomskyChart.Text
