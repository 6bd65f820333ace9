import Mathlib.Logic.Relation
import RecordFilter.Proofs.Normal.Invariant
import RecordFilter.Proofs.Normal.Slot

/-!
# The substance of a filter

The *substance* of a shielded filter is what is left when its blanks and marks are deleted, and then
pairs of brackets with nothing between them until there is none. It holds the operands in order and
every pair of brackets that stands around some of them. Normalizing repairs the brackets of a filter
and changes nothing in its substance after that.

## Main statements

* `cancelPairs_eq`: in whatever order empty pairs are deleted, the same text is left.
* `substance_normalize`: normalizing keeps the literals and the substance.
-/

namespace RecordFilter

namespace Normal

open Text

/-- A pair of brackets with nothing between them is deleted. -/
inductive DeletesPair : List Char → List Char → Prop
  | intro (u v : List Char) : DeletesPair (u ++ '(' :: ')' :: v) (u ++ v)

/-- Put a character in front of a text, where an opening bracket cancels the closing bracket behind
it. -/
def cancelPair : Char → List Char → List Char
  | '(', ')' :: s => s
  | x, s => x :: s

/-- Delete pairs of brackets with nothing between them until there is none. -/
def cancelPairs (s : List Char) : List Char := s.foldr cancelPair []

/-- What is left of a filter without its blanks and connectives and without empty groups. -/
def substance (s : List Char) : List Char :=
  cancelPairs (s.filter fun x => !(isBlank x || isMark x))

/-! ## Deleting pairs -/

theorem cancelPair_cases (x : Char) (s : List Char) :
    (∃ t, x = '(' ∧ s = ')' :: t ∧ cancelPair x s = t) ∨
      (∀ t, x :: s ≠ '(' :: ')' :: t) ∧ cancelPair x s = x :: s := by
  unfold cancelPair
  split
  · next t => exact .inl ⟨t, rfl, rfl, rfl⟩
  · next hne =>
    refine .inr ⟨?_, rfl⟩
    rintro t ⟨⟩
    exact hne t rfl rfl

theorem DeletesPair.cons {s t : List Char} (h : DeletesPair s t) (x : Char) :
    DeletesPair (x :: s) (x :: t) := by
  obtain ⟨u, v⟩ := h
  exact .intro (x :: u) v

/-- The pairs are deleted one by one. -/
theorem deletesPair_cancelPairs (s : List Char) :
    Relation.ReflTransGen DeletesPair s (cancelPairs s) := by
  induction s with
  | nil => exact .refl
  | cons x s ih =>
    have hx : Relation.ReflTransGen DeletesPair (x :: s) (x :: cancelPairs s) :=
      ih.lift (x :: ·) fun _ _ h => h.cons x
    rcases cancelPair_cases x (cancelPairs s) with ⟨t, rfl, hs, ht⟩ | ⟨-, hself⟩
    · rw [hs] at hx
      exact hx.tail (ht ▸ .intro [] t)
    · rw [cancelPairs, List.foldr_cons, ← cancelPairs, hself]
      exact hx

/-- No pair is left. -/
theorem not_deletesPair_cancelPairs (s t : List Char) : ¬ DeletesPair (cancelPairs s) t := by
  suffices h : ∀ u v, cancelPairs s ≠ u ++ '(' :: ')' :: v by
    generalize hs : cancelPairs s = r
    rintro ⟨u, v⟩
    exact h u v hs
  induction s with
  | nil => simp [cancelPairs]
  | cons x s ih =>
    intro u v h
    rw [cancelPairs, List.foldr_cons, ← cancelPairs] at h
    rcases cancelPair_cases x (cancelPairs s) with ⟨r, -, hs, hr⟩ | ⟨hne, hself⟩
    · exact ih (')' :: u) v (by rw [hs, ← hr, h]; rfl)
    · rw [hself] at h
      cases u with
      | nil => exact hne v h
      | cons y u => exact ih u v (List.cons.inj h).2

/-- Deleting one pair makes no difference to what is left in the end. -/
theorem DeletesPair.cancelPairs_eq {s t : List Char} (h : DeletesPair s t) :
    cancelPairs s = cancelPairs t := by
  obtain ⟨u, v⟩ := h
  simp [cancelPairs, cancelPair]

/-- In whatever order empty pairs are deleted until there is none, the same text is left. -/
theorem cancelPairs_eq {s t : List Char} (h : Relation.ReflTransGen DeletesPair s t)
    (ht : ∀ r, ¬ DeletesPair t r) : cancelPairs s = t := by
  induction h using Relation.ReflTransGen.head_induction_on with
  | refl =>
    rcases Relation.ReflTransGen.cases_head (deletesPair_cancelPairs t) with heq | ⟨r, hr, -⟩
    · exact heq.symm
    · exact absurd hr (ht r)
  | head hstep _ ih => rw [hstep.cancelPairs_eq, ih]

/-! ## Substance through a pass -/

theorem substance_cons (x : Char) (s : List Char) :
    substance (x :: s) =
      if isBlank x || isMark x then substance s else cancelPair x (substance s) := by
  cases hx : isBlank x || isMark x with
  | true => rw [if_pos rfl, substance, List.filter_cons_of_neg (by simp [hx]), substance]
  | false =>
    rw [if_neg (by simp), substance, List.filter_cons_of_pos (by simp [hx]), cancelPairs,
      List.foldr_cons]
    rfl

/-- The substance holds every character of the operands, in order. -/
theorem filter_isPlain_substance (s : List Char) :
    (substance s).filter isPlain = s.filter isPlain := by
  induction s with
  | nil => rfl
  | cons x s ih =>
    rw [substance_cons]
    split
    · next hx =>
      have hplain : isPlain x = false := by
        rcases Bool.or_eq_true_iff.1 hx with hx | hx <;> simp [isPlain, hx]
      rw [ih, List.filter_cons_of_neg (by simp [hplain])]
    · rcases cancelPair_cases x (substance s) with ⟨t, rfl, hs, ht⟩ | ⟨-, hself⟩
      · rw [hs] at ih
        simpa [ht] using ih
      · rw [hself, List.filter_cons, List.filter_cons, ih]

theorem overlooks_substance : Overlooks substance where
  cons x s t h := by rw [substance_cons, substance_cons, h]
  blank {x} s hx := by rw [substance_cons, hx, Bool.true_or, if_pos rfl]
  mark c s := by rw [substance_cons, isMark_mark, Bool.or_true, if_pos rfl]
  pair s := by
    have hopen : (isBlank '(' || isMark '(') = false := by decide
    have hclose : (isBlank ')' || isMark ')') = false := by decide
    rw [substance_cons, substance_cons, hopen, hclose]
    rfl

theorem substance_settled (raw : List Char) :
    substance (settled raw).text = substance (prepared raw) := by
  refine settled_induction (motive := fun s => substance s = substance (prepared raw)) raw rfl ?_
  intro s hs
  rw [overlooks_substance.apply_rulePass, hs]

end Normal

open RecordFilter.Normal

/-- Normalizing keeps the literals of a filter, and what it leaves has the substance of the filter
with its brackets repaired. -/
theorem substance_normalize (raw : String) :
    (shield (normalize raw).toList).literals = (shield raw.toList).literals ∧
      substance (balance (shield raw.toList).text) =
        substance (shield (normalize raw).toList).text := by
  have hsettled := substance_settled raw.toList
  rw [prepared] at hsettled
  rw [normalize, String.toList_ofList, shield_normalizeChars, hsettled]
  exact ⟨rfl, rfl⟩

end RecordFilter
