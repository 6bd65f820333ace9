import Mathlib.Logic.Function.Iterate
import RecordFilter.Normalize
import RecordFilter.Proofs.Normal.Bracket
import RecordFilter.Proofs.Normal.Spacing

/-!
# Passes come to rest

The first pass leaves a spaced text. From then on, a pass that changes anything lowers the debt by
two or more, since on a spaced text in which there is nothing to clean up the spacing rules do
nothing either. A balanced text owes at most twice its length, so one pass more than its length is
enough to bring it to rest and one more to notice.

## Main statements

* `settle_eq`: the loop stops where the passes first come to rest.
* `exists_restsAfter_of_balanced`: they do so within the bound.
* `normalize_settles`: every filter is brought to rest, and no warning is written.
-/

namespace RecordFilter

namespace Normal

/-- The text after `n` passes is the first that a pass leaves as it is. -/
structure RestsAfter (n : Nat) (s : List Char) : Prop where
  rest : rulePass (rulePass^[n] s) = rulePass^[n] s
  first : ∀ m < n, rulePass (rulePass^[m] s) ≠ rulePass^[m] s

theorem RestsAfter.zero {s : List Char} (h : rulePass s = s) : RestsAfter 0 s :=
  ⟨h, fun _ hm => absurd hm (Nat.not_lt_zero _)⟩

theorem RestsAfter.succ {n : Nat} {s : List Char} (hne : rulePass s ≠ s)
    (h : RestsAfter n (rulePass s)) : RestsAfter (n + 1) s := by
  refine ⟨h.rest, fun m hm => ?_⟩
  cases m with
  | zero => exact hne
  | succ m => exact h.first m (by omega)

/-- The loop stops where the passes first come to rest. -/
theorem settle_eq {n bound : Nat} {s : List Char} (h : RestsAfter n s) (hn : n < bound)
    (done : Nat) : settle bound done s = ⟨rulePass^[n] s, done + n + 1, true⟩ := by
  induction n generalizing bound done s with
  | zero =>
    obtain ⟨bound, rfl⟩ := Nat.exists_eq_add_one_of_ne_zero (by omega : bound ≠ 0)
    have hrest : rulePass s = s := h.rest
    simp [settle, hrest]
  | succ n ih =>
    obtain ⟨bound, rfl⟩ := Nat.exists_eq_add_one_of_ne_zero (by omega : bound ≠ 0)
    have hne : rulePass s ≠ s := h.first 0 (by omega)
    have htail : RestsAfter n (rulePass s) := ⟨h.rest, fun m hm => h.first (m + 1) (by omega)⟩
    simp only [settle, hne, if_false, ih htail (by omega : n < bound) (done + 1),
      Function.iterate_succ_apply]
    congr 1
    omega

/-- On a spaced text every pass before the last lowers the debt by two. -/
theorem exists_restsAfter_of_spaced {k : Nat} {s : List Char} (hs : Spaced s)
    (hk : debt s ≤ 2 * k) : ∃ n ≤ k, RestsAfter n s := by
  induction k generalizing s with
  | zero =>
    rcases quiet_or_debt_rulePass s with ⟨hquiet, hself⟩ | hlt
    · exact ⟨0, Nat.le_refl 0, .zero (hself.trans (space_eq_self hs hquiet))⟩
    · omega
  | succ k ih =>
    by_cases hrest : rulePass s = s
    · exact ⟨0, Nat.zero_le _, .zero hrest⟩
    rcases quiet_or_debt_rulePass s with ⟨hquiet, hself⟩ | hlt
    · exact absurd (hself.trans (space_eq_self hs hquiet)) hrest
    · obtain ⟨n, hn, h⟩ := ih (spaced_space (clean s)) (s := rulePass s) (by omega)
      exact ⟨n + 1, by omega, h.succ hrest⟩

/-- On a balanced text the passes come to rest within the bound. -/
theorem exists_restsAfter_of_balanced {s : List Char} (hs : Balanced s) :
    ∃ n < passBound s, RestsAfter n s := by
  have hdebt := debt_le_of_balanced hs
  have hpass : debt (rulePass s) ≤ 2 * s.length := by
    rcases quiet_or_debt_rulePass s with ⟨-, hself⟩ | hlt
    · have hspace := debt_space_le s
      rw [hself]
      omega
    · omega
  by_cases hrest : rulePass s = s
  · exact ⟨0, by simp [passBound], .zero hrest⟩
  · obtain ⟨n, hn, h⟩ := exists_restsAfter_of_spaced (spaced_space (clean s)) hpass
    exact ⟨n + 1, by simp only [passBound]; omega, h.succ hrest⟩

/-! ## Where a filter is brought -/

theorem exists_settled_eq (raw : List Char) : ∃ n < passBound (prepared raw),
    RestsAfter n (prepared raw) ∧ settled raw = ⟨rulePass^[n] (prepared raw), n + 1, true⟩ := by
  obtain ⟨n, hn, h⟩ := exists_restsAfter_of_balanced (balanced_balance (shield raw).text)
  refine ⟨n, hn, h, ?_⟩
  simpa [settled, prepared] using settle_eq h hn 0

/-- A pass leaves the text that a filter is brought to as it is. -/
theorem rulePass_settled (raw : List Char) : rulePass (settled raw).text = (settled raw).text := by
  obtain ⟨n, -, h, heq⟩ := exists_settled_eq raw
  rw [heq]
  exact h.rest

/-- What holds of the repaired text and is kept by a pass holds of the text it is brought to. -/
theorem settled_induction {motive : List Char → Prop} (raw : List Char)
    (start : motive (prepared raw)) (step : ∀ s, motive s → motive (rulePass s)) :
    motive (settled raw).text := by
  obtain ⟨n, -, -, heq⟩ := exists_settled_eq raw
  rw [heq]
  exact Function.Iterate.rec motive start step n

theorem spaced_settled (raw : List Char) : Spaced (settled raw).text := by
  rw [← rulePass_settled]
  exact spaced_space _

theorem quiet_settled (raw : List Char) : Quiet (settled raw).text :=
  (quiet_of_rulePass_eq (rulePass_settled raw)).1

theorem balanced_settled (raw : List Char) : Balanced (settled raw).text :=
  settled_induction raw (balanced_balance _) fun _ h => h.rulePass

end Normal

open RecordFilter.Normal

/-- Normalizing writes nothing to the log but records for who traces an error. -/
theorem level_of_mem_normalizeLog {raw : String} {record : LogRecord}
    (h : record ∈ normalizeLog raw) : record.level = .debug := by
  obtain ⟨n, -, -, heq⟩ := exists_settled_eq raw.toList
  simp only [normalizeLog, heq, if_true, List.append_nil] at h
  split at h
  · cases h
  · split at h <;> simp at h
    · rw [h]
    · rcases h with rfl | rfl <;> rfl

/-- Every filter is brought to rest: within the bound on the number of passes one of them returns
its input, which is the text the literals return to, and nothing is written to the log as a warning.
-/
theorem normalize_settles (raw : String) :
    ∃ n < (prepared raw.toList).length + 2,
      rulePass (rulePass^[n] (prepared raw.toList)) = rulePass^[n] (prepared raw.toList) ∧
      settled raw.toList = ⟨rulePass^[n] (prepared raw.toList), n + 1, true⟩ ∧
      normalize raw = String.ofList
        (restore (shield raw.toList).literals (rulePass^[n] (prepared raw.toList))) ∧
      ∀ record ∈ normalizeLog raw, record.level = .debug := by
  obtain ⟨n, hn, h, heq⟩ := exists_settled_eq raw.toList
  refine ⟨n, hn, h.rest, heq, ?_, fun record => level_of_mem_normalizeLog⟩
  rw [normalize, normalizeChars, heq]

end RecordFilter
