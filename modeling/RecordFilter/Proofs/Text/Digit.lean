import RecordFilter.Text.Digit

/-!
# Numbers written out

The decimal notation of a number is made of the ten ASCII digits and is read back as that number.
-/

namespace RecordFilter.Text

theorem numberOfDigits_append_singleton (ds : List Char) (d : Char) :
    numberOfDigits (ds ++ [d]) = 10 * numberOfDigits ds + (digitValue? d).getD 0 := by
  simp [numberOfDigits]

theorem digitValue?_digitChar {k : Nat} (hk : k < 10) : digitValue? (Nat.digitChar k) = some k := by
  have hall : ∀ k < 10, digitValue? (Nat.digitChar k) = some k := by decide
  exact hall k hk

theorem isDigit_digitChar {k : Nat} (hk : k < 10) : isDigit (Nat.digitChar k) = true := by
  rw [← isSome_digitValue?, digitValue?_digitChar hk]
  rfl

/-- The last digit of a number, behind the digits of the others. -/
theorem toList_repr_eq (n : Nat) : (Nat.repr n).toList =
    (if n < 10 then [] else (Nat.repr (n / 10)).toList) ++ [Nat.digitChar (n % 10)] := by
  rw [Nat.toList_repr, Nat.toList_repr, Nat.toDigits_eq_if (by decide)]
  split
  · next h => simp [Nat.mod_eq_of_lt h]
  · rfl

/-- Reading back what was written. -/
theorem numberOfDigits_repr (n : Nat) : numberOfDigits (Nat.repr n).toList = n := by
  induction n using Nat.strongRecOn with
  | _ n ih =>
    rw [toList_repr_eq, numberOfDigits_append_singleton,
      digitValue?_digitChar (Nat.mod_lt n (by decide))]
    split
    · next h => simpa [numberOfDigits] using Nat.mod_eq_of_lt h
    · next h =>
      rw [ih (n / 10) (by omega)]
      simp
      omega

theorem exists_digitChar_of_mem_repr {n : Nat} {x : Char} (h : x ∈ (Nat.repr n).toList) :
    ∃ k < 10, x = Nat.digitChar k := by
  induction n using Nat.strongRecOn with
  | _ n ih =>
    rw [toList_repr_eq, List.mem_append, List.mem_singleton] at h
    rcases h with h | rfl
    · split at h
      · cases h
      · next hn => exact ih (n / 10) (by omega) h
    · exact ⟨n % 10, Nat.mod_lt n (by decide), rfl⟩

end RecordFilter.Text
