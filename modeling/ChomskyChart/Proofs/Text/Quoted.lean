import ChomskyChart.Text.Quoted
import Mathlib.Data.Nat.Digits.Defs

/-!
# What quotes hide and what they keep

Between quotes a line feed is spelled out like every other character that cannot be seen, so text in
quotes stays on one line, whatever it is. No character is lost: each can be read back from its
spelling, whatever follows, and no spelling begins with the quote that ends the text. So it can be
told where text in quotes ends and what it is.
-/
namespace ChomskyChart.Text

/-! ## Numbers -/

/-- A number is written with digits. -/
theorem exists_digit_of_mem_toDigits {base n : Nat} {c : Char} (hbase : 1 < base)
    (h : c ∈ Nat.toDigits base n) : ∃ digit < base, digit.digitChar = c := by
  induction n using Nat.strong_induction_on with
  | _ n ih =>
    rw [Nat.toDigits_eq_if hbase] at h
    split at h
    case isTrue hlt => exact ⟨n, hlt, (List.mem_singleton.mp h).symm⟩
    case isFalse hge =>
      rcases List.mem_append.mp h with h | h
      · exact ih (n / base) (Nat.div_lt_self (by omega) hbase) h
      · exact ⟨n % base, Nat.mod_lt _ (by omega), (List.mem_singleton.mp h).symm⟩

theorem notMem_toDigits {c : Char} (h : ∀ digit < 16, digit.digitChar ≠ c) (n : Nat) :
    c ∉ Nat.toDigits 16 n := by
  intro hmem
  obtain ⟨digit, hlt, hdigit⟩ := exists_digit_of_mem_toDigits (by decide) hmem
  exact h digit hlt hdigit

/-- The value of a lower-case hexadecimal digit. -/
def hexDigit (c : Char) : Nat :=
  if c.toNat < 'a'.toNat then c.toNat - '0'.toNat else c.toNat - 'a'.toNat + 10

def hexValue (digits : List Char) : Nat := digits.foldl (fun n c => 16 * n + hexDigit c) 0

theorem hexDigit_digitChar : ∀ digit < 16, hexDigit digit.digitChar = digit := by
  decide

theorem hexValue_toDigits (n : Nat) : hexValue (Nat.toDigits 16 n) = n := by
  induction n using Nat.strong_induction_on with
  | _ n ih =>
    rw [Nat.toDigits_eq_if (by decide)]
    split
    case isTrue hlt => simp [hexValue, hexDigit_digitChar n hlt]
    case isFalse hge =>
      have hlast : hexDigit (n % 16).digitChar = n % 16 :=
        hexDigit_digitChar _ (Nat.mod_lt n (by decide))
      have hfront := ih (n / 16) (Nat.div_lt_self (by omega) (by decide))
      rw [hexValue] at hfront ⊢
      rw [List.foldl_append, hfront, List.foldl_cons, List.foldl_nil, hlast, Nat.div_add_mod]

/-! ## Lines -/

theorem newline_notMem_codePointEscape (c : Char) : '\n' ∉ codePointEscape c := by
  have hdigits : '\n' ∉ Nat.toDigits 16 c.toNat := notMem_toDigits (by decide) _
  simp [codePointEscape, hdigits]

theorem newline_notMem_escape (quote c : Char) : '\n' ∉ escape quote c := by
  unfold escape
  split_ifs with hnul htab hreturn hnewline hself hprintable
  · decide
  · decide
  · decide
  · decide
  · have hne : '\n' ≠ c := Ne.symm hnewline
    simp [hne]
  · simpa using Ne.symm hnewline
  · exact newline_notMem_codePointEscape c

/-- Text in quotes is never broken into lines. -/
theorem newline_notMem_quoted (text : String) : '\n' ∉ (quoted text).toList := by
  intro h
  rw [quoted, between, String.toList_ofList, List.cons_append, List.mem_cons, List.mem_append,
    List.mem_flatMap] at h
  rcases h with h | ⟨c, -, h⟩ | h
  · cases h
  · exact newline_notMem_escape _ c h
  · simp at h

/-! ## Reading back -/

/-- The character that is spelled at the front of a text between quotes, and what follows. -/
def unescape : List Char → Option (Char × List Char)
  | '\\' :: 'u' :: '\x7b' :: rest =>
    some (Char.ofNat (hexValue (rest.takeWhile (· ≠ '\x7d'))), (rest.dropWhile (· ≠ '\x7d')).tail)
  | '\\' :: '0' :: rest => some ('\x00', rest)
  | '\\' :: 't' :: rest => some ('\t', rest)
  | '\\' :: 'r' :: rest => some ('\r', rest)
  | '\\' :: 'n' :: rest => some ('\n', rest)
  | '\\' :: c :: rest => some (c, rest)
  | c :: rest => some (c, rest)
  | [] => none

theorem unescape_codePointEscape (c : Char) (rest : List Char) :
    unescape (codePointEscape c ++ rest) = some (c, rest) := by
  have hdigits : ∀ d ∈ Nat.toDigits 16 c.toNat, decide (d ≠ '\x7d') = true := by
    intro d hd
    have hbrace : '\x7d' ∉ Nat.toDigits 16 c.toNat := notMem_toDigits (by decide) _
    exact decide_eq_true (ne_of_mem_of_not_mem hd hbrace)
  simp only [codePointEscape, List.cons_append, List.append_assoc, unescape]
  rw [List.takeWhile_append_of_pos hdigits, List.dropWhile_append_of_pos hdigits]
  simp [hexValue_toDigits, Char.ofNat_toNat]

variable {c quote : Char}

/-- A spelled character is read back, whatever follows. -/
theorem unescape_escape (hquote : quote = '"' ∨ quote = '\'') (rest : List Char) :
    unescape (escape quote c ++ rest) = some (c, rest) := by
  unfold escape
  split_ifs with hnul htab hreturn hnewline hself hprintable
  · rw [hnul]; rfl
  · rw [htab]; rfl
  · rw [hreturn]; rfl
  · rw [hnewline]; rfl
  · have hc : c = '\\' ∨ c = '"' ∨ c = '\'' := by
      rcases hself with rfl | rfl
      · exact .inl rfl
      · exact .inr hquote
    rcases hc with rfl | rfl | rfl <;> rfl
  · have hraw : c ≠ '\\' := fun hc => hself (.inl hc)
    rw [List.singleton_append, unescape.eq_def]
    simp [hraw]
  · exact unescape_codePointEscape c rest

/-- Nothing is spelled like the quote that ends the text. -/
theorem head?_escape (hquote : quote = '"' ∨ quote = '\'') (c : Char) :
    ∃ d ∈ (escape quote c).head?, d ≠ quote := by
  have hbackslash : '\\' ≠ quote := by rcases hquote with rfl | rfl <;> decide
  unfold escape
  split_ifs with hnul htab hreturn hnewline hself hprintable
  · exact ⟨_, rfl, hbackslash⟩
  · exact ⟨_, rfl, hbackslash⟩
  · exact ⟨_, rfl, hbackslash⟩
  · exact ⟨_, rfl, hbackslash⟩
  · exact ⟨_, rfl, hbackslash⟩
  · exact ⟨c, rfl, fun hc => hself (.inr hc)⟩
  · exact ⟨_, rfl, hbackslash⟩

theorem flatMap_escape_inj (hquote : quote = '"' ∨ quote = '\'') {cs cs' rest rest' : List Char}
    (h : cs.flatMap (escape quote) ++ quote :: rest = cs'.flatMap (escape quote) ++ quote :: rest') :
    cs = cs' ∧ rest = rest' := by
  have hends : ∀ {c : Char} {more after : List Char},
      quote :: after ≠ escape quote c ++ more := by
    intro c more after heq
    obtain ⟨d, hd, hne⟩ := head?_escape hquote c
    obtain ⟨tail, htail⟩ := List.head?_eq_some_iff.mp hd
    rw [htail] at heq
    exact hne (List.cons.inj heq).1.symm
  induction cs generalizing cs' with
  | nil =>
    cases cs' with
    | nil => exact ⟨rfl, (List.cons.inj h).2⟩
    | cons d cs' =>
      rw [List.flatMap_cons, List.append_assoc] at h
      exact absurd h hends
  | cons c cs ih =>
    rw [List.flatMap_cons, List.append_assoc] at h
    cases cs' with
    | nil => exact absurd h.symm hends
    | cons d cs' =>
      rw [List.flatMap_cons, List.append_assoc] at h
      have hread := congrArg unescape h
      rw [unescape_escape hquote, unescape_escape hquote] at hread
      obtain ⟨rfl, htail⟩ := Prod.mk.inj (Option.some.inj hread)
      obtain ⟨rfl, hrest⟩ := ih htail
      exact ⟨rfl, hrest⟩

theorem toList_quoted (text : String) :
    (quoted text).toList = '"' :: text.toList.flatMap (escape '"') ++ ['"'] := by
  rw [quoted, between, String.toList_ofList]

/-- Text in quotes shows what it is and where it ends. -/
theorem quoted_append_inj {text text' : String} {rest rest' : List Char}
    (h : (quoted text).toList ++ rest = (quoted text').toList ++ rest') :
    text = text' ∧ rest = rest' := by
  simp only [toList_quoted, List.cons_append, List.append_assoc, List.cons.injEq, true_and] at h
  obtain ⟨htext, hrest⟩ := flatMap_escape_inj (.inl rfl) h
  exact ⟨String.toList_inj.mp htext, hrest⟩

end ChomskyChart.Text
