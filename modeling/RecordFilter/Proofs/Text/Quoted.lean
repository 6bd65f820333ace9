import RecordFilter.Text.Quoted

/-!
# Quoted text can be told apart

The front of what stands between quotes says which character it is written for: one that stands for
itself is no backslash, and behind a backslash comes a letter that says how many hexadecimal digits
follow, or another character that says on its own which one is meant. So no two texts look the same
once they are quoted.

## Main statements

* `numberOfHexDigits_hexDigits`: a number can be read back from its hexadecimal digits.
* `readChar?_escapeChar`: a character can be read back from what is written for it.
* `quoted_injective`: a text is determined by its quoted form.
-/

namespace RecordFilter.Text

/-! ## Hexadecimal digits -/

/-- The value of a lower case hexadecimal digit. -/
def hexValue (c : Char) : Nat := if c < 'a' then c.toNat - '0'.toNat else c.toNat - 'a'.toNat + 10

/-- The number that a row of hexadecimal digits writes, most significant digit first. -/
def numberOfHexDigits (ds : List Char) : Nat := ds.foldl (fun n c => 16 * n + hexValue c) 0

theorem hexValue_digitChar {k : Nat} (hk : k < 16) : hexValue (Nat.digitChar k) = k := by
  have hall : ∀ k < 16, hexValue (Nat.digitChar k) = k := by decide
  exact hall k hk

theorem numberOfHexDigits_concat (ds : List Char) (c : Char) :
    numberOfHexDigits (ds ++ [c]) = 16 * numberOfHexDigits ds + hexValue c := by
  simp [numberOfHexDigits]

theorem numberOfHexDigits_toDigits (n : Nat) : numberOfHexDigits (Nat.toDigits 16 n) = n := by
  induction n using Nat.strongRecOn with
  | ind n ih =>
    rw [Nat.toDigits_eq_if (by decide)]
    split
    · next h => simpa [numberOfHexDigits] using hexValue_digitChar h
    · next h =>
      rw [numberOfHexDigits_concat, ih (n / 16) (by omega), hexValue_digitChar (by omega)]
      omega

theorem numberOfHexDigits_replicate_zero (k : Nat) :
    numberOfHexDigits (List.replicate k '0') = 0 := by
  induction k with
  | zero => rfl
  | succ k ih =>
    rw [List.replicate_succ', numberOfHexDigits_concat, ih]
    rfl

/-- Zeros in front make no difference. -/
theorem numberOfHexDigits_hexDigits (width n : Nat) :
    numberOfHexDigits (hexDigits width n) = n := by
  have hzeros := numberOfHexDigits_replicate_zero (width - (Nat.toDigits 16 n).length)
  have hdigits := numberOfHexDigits_toDigits n
  simp only [numberOfHexDigits, hexDigits, List.foldl_append] at hzeros hdigits ⊢
  rw [hzeros, hdigits]

theorem length_hexDigits {width n : Nat} (h : (Nat.toDigits 16 n).length ≤ width) :
    (hexDigits width n).length = width := by
  simp only [hexDigits, List.length_append, List.length_replicate]
  omega

/-! ## Characters between quotes -/

/-- The number of digits behind a letter that announces a number. -/
def escapeWidth? (e : Char) : Option Nat :=
  if e = 'x' then some 2 else if e = 'u' then some 4 else if e = 'U' then some 8 else none

/-- The character that a character behind a backslash stands for, if it announces no number. -/
def shortEscaped (e : Char) : Char :=
  if e = 't' then '\t' else if e = 'n' then '\n' else if e = 'r' then '\r' else e

/-- The character that is written at the front of a text between quotes. -/
def readChar? : List Char → Option Char
  | [] => none
  | c :: s =>
    if c = '\\' then
      s.head?.map fun e =>
        match escapeWidth? e with
        | some width => Char.ofNat (numberOfHexDigits (s.tail.take width))
        | none => shortEscaped e
    else some c

theorem readChar?_short {quote c e : Char} (hquote : quote = '\'' ∨ quote = '"')
    (h : shortEscape? quote c = some e) (s : List Char) : readChar? ('\\' :: e :: s) = some c := by
  have hcases : (c = '\'' ∨ c = '"' ∨ c = '\\') ∧ e = c ∨
      (c, e) ∈ [('\t', 't'), ('\n', 'n'), ('\r', 'r')] := by
    unfold shortEscape? at h
    grind
  simp only [List.mem_cons, Prod.mk.injEq, List.not_mem_nil, or_false] at hcases
  rcases hcases with ⟨rfl | rfl | rfl, rfl⟩ | ⟨rfl, rfl⟩ | ⟨rfl, rfl⟩ | ⟨rfl, rfl⟩ <;> rfl

theorem readChar?_number {c e : Char} {width : Nat} (he : escapeWidth? e = some width)
    (hc : (Nat.toDigits 16 c.toNat).length ≤ width) (s : List Char) :
    readChar? ('\\' :: e :: (hexDigits width c.toNat ++ s)) = some c := by
  have htake : (hexDigits width c.toNat ++ s).take width = hexDigits width c.toNat :=
    List.take_left' (length_hexDigits hc)
  simp [readChar?, he, htake, numberOfHexDigits_hexDigits]

/-- A character can be read back from what is written for it, whatever stands behind. -/
theorem readChar?_escapeChar {quote : Char} (hquote : quote = '\'' ∨ quote = '"') (c : Char)
    (s : List Char) : readChar? (escapeChar quote c ++ s) = some c := by
  unfold escapeChar
  split
  · next e he => exact readChar?_short hquote he s
  · next hnone =>
    have hne : c ≠ '\\' := by
      rintro rfl
      simp [shortEscape?] at hnone
    split
    · simp [readChar?, hne]
    · have hlength : ∀ width, 0 < width → c.toNat < 16 ^ width →
          (Nat.toDigits 16 c.toNat).length ≤ width :=
        fun _ hwidth => (Nat.length_toDigits_le_iff (by decide) hwidth).2
      unfold numericEscape
      split
      · next hc => exact readChar?_number rfl (hlength 2 (by decide) hc) s
      · split
        · next hc => exact readChar?_number rfl (hlength 4 (by decide) hc) s
        · exact readChar?_number rfl (hlength 8 (by decide) c.val.toNat_lt) s

/-- What stands between quotes determines the text. -/
theorem flatMap_escapeChar_inj {quote : Char} (hquote : quote = '\'' ∨ quote = '"')
    {s t : List Char} (h : s.flatMap (escapeChar quote) = t.flatMap (escapeChar quote)) :
    s = t := by
  induction s generalizing t with
  | nil =>
    cases t with
    | nil => rfl
    | cons d t =>
      have hread := readChar?_escapeChar hquote d (t.flatMap (escapeChar quote))
      rw [← List.flatMap_cons, ← h] at hread
      cases hread
  | cons c s ih =>
    have hread := readChar?_escapeChar hquote c (s.flatMap (escapeChar quote))
    rw [← List.flatMap_cons, h] at hread
    cases t with
    | nil => cases hread
    | cons d t =>
      rw [List.flatMap_cons, readChar?_escapeChar hquote d] at hread
      cases hread
      simp only [List.flatMap_cons, List.append_cancel_left_eq] at h
      rw [ih h]

theorem quoteMark_eq (s : List Char) : quoteMark s = '\'' ∨ quoteMark s = '"' := by
  unfold quoteMark
  split <;> simp

/-- A text is determined by its quoted form. -/
theorem quoted_injective : Function.Injective quoted := by
  intro s t h
  have hchars := congrArg String.toList h
  simp only [quoted, String.toList_ofList, List.cons_append, List.cons.injEq] at hchars
  obtain ⟨hmark, hrest⟩ := hchars
  rw [hmark, List.append_cancel_right_eq] at hrest
  exact String.toList_inj.1 (flatMap_escapeChar_inj (quoteMark_eq t.toList) hrest)

end RecordFilter.Text
