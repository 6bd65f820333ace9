import RecordFilter.Proofs.Normal.Slot

/-!
# The normal form

What a normalized filter looks like once its literals are put behind slots, said by the shapes that
do not occur in it and not by the rules. A text at which the passes came to rest is quiet, spaced
and balanced, and that is enough to be in normal form.

## Main statements

* `NormalForm.of_quiet`: quiet, spaced and balanced texts are in normal form.
* `normalForm_normalize`: every normalized filter is in normal form.
* `normalize_idempotent`: normalizing once more changes nothing.
-/

namespace RecordFilter

namespace Normal

open Text

/-- The normal form of a shielded filter. -/
structure NormalForm (s : List Char) : Prop where
  prefix_close : ∀ u, u <+: s → u.count ')' ≤ u.count '('
  total_close : s.count '(' = s.count ')'
  no_leading_blank : ∀ x v, s = x :: v → isBlank x = false
  no_trailing_blank : ∀ u x, s = u ++ [x] → isBlank x = false
  single_spaces : ∀ u x v, s = u ++ x :: v → isBlank x = true →
    x = ' ' ∧ ∀ y w, v = y :: w → isBlank y = false
  no_empty_group : ∀ u b v, Blanks b → s ≠ u ++ ['('] ++ b ++ [')'] ++ v
  no_leading_connective : ∀ b (c : Connective) v, Blanks b → s ≠ b ++ c.symbol.toList ++ v
  no_trailing_connective : ∀ u (c : Connective) b, Blanks b → s ≠ u ++ c.symbol.toList ++ b
  no_connective_after_open : ∀ u b (c : Connective) v, Blanks b →
    s ≠ u ++ ['('] ++ b ++ c.symbol.toList ++ v
  no_connective_before_close : ∀ u (c : Connective) b v, Blanks b →
    s ≠ u ++ c.symbol.toList ++ b ++ [')'] ++ v
  no_connective_beside_connective : ∀ u (c : Connective) b (d : Connective) v, Blanks b →
    s ≠ u ++ c.symbol.toList ++ b ++ d.symbol.toList ++ v
  spaced_connective : ∀ u (c : Connective) v, s = u ++ c.symbol.toList ++ v →
    ∃ u' x y v', u = u' ++ [x, ' '] ∧ v = ' ' :: y :: v' ∧ isBlank x = false ∧ isBlank y = false
  no_condition_behind_close : ∀ u b v, Blanks b → StartsCondition v → s ≠ u ++ [')'] ++ b ++ v

/-- In a quiet text that is spaced, one space stands in front of a connective. -/
theorem Spaced.exists_before {s : List Char} (hs : Spaced s) (hq : Quiet s) {u : List Char}
    {c : Connective} {v : List Char} (h : s = u ++ c.mark :: c.mark :: v) :
    ∃ u' x, u = u' ++ [x, ' '] ∧ isBlank x = false := by
  rcases hs.before u c v h with rfl | ⟨u', rfl⟩
  · exact absurd h (hq.ne_leadingConnective blanks_nil c v)
  rcases List.eq_nil_or_concat u' with rfl | ⟨w, x, rfl⟩
  · have hfirst := hs.first
    rw [h] at hfirst
    simp at hfirst
  refine ⟨w, x, by simp, ?_⟩
  cases hx : isBlank x with
  | false => rfl
  | true =>
    have hsolid := (hs.single w x (' ' :: c.mark :: c.mark :: v) (by simp [h]) hx).2
    simp at hsolid

/-- In a quiet text that is spaced, one space stands behind a connective. -/
theorem Spaced.exists_after {s : List Char} (hs : Spaced s) (hq : Quiet s) {u : List Char}
    {c : Connective} {v : List Char} (h : s = u ++ c.mark :: c.mark :: v) :
    ∃ y v', v = ' ' :: y :: v' ∧ isBlank y = false := by
  rcases hs.after u c v h with rfl | ⟨v', rfl⟩
  · exact absurd h (hq.ne_trailingConnective blanks_nil u c)
  cases v' with
  | nil =>
    have hlast := hs.last (u ++ [c.mark, c.mark]) ' ' (by simp [h])
    simp at hlast
  | cons y w =>
    have hsolid := (hs.single (u ++ [c.mark, c.mark]) ' ' (y :: w) (by simp [h]) (by simp)).2
    exact ⟨y, w, rfl, solid_cons.1 hsolid⟩

theorem NormalForm.of_quiet {s : List Char} (hb : Balanced s) (hs : Spaced s) (hq : Quiet s) :
    NormalForm s where
  prefix_close := (balanced_iff.1 hb).1
  total_close := (balanced_iff.1 hb).2
  no_leading_blank := by
    rintro x v rfl
    exact solid_cons.1 hs.first
  no_trailing_blank := hs.last
  single_spaces := by
    intro u x v h hx
    obtain ⟨hspace, hsolid⟩ := hs.single u x v h hx
    refine ⟨hspace, ?_⟩
    rintro y w rfl
    exact solid_cons.1 hsolid
  no_empty_group := by
    intro u b v hblanks
    simpa using hq.ne_emptyGroup hblanks u v
  no_leading_connective := by
    intro b c v hblanks
    simpa [Connective.toList_symbol] using hq.ne_leadingConnective hblanks c v
  no_trailing_connective := by
    intro u c b hblanks
    simpa [Connective.toList_symbol] using hq.ne_trailingConnective hblanks u c
  no_connective_after_open := by
    intro u b c v hblanks
    simpa [Connective.toList_symbol] using hq.ne_connectiveAfterOpen hblanks u c v
  no_connective_before_close := by
    intro u c b v hblanks
    simpa [Connective.toList_symbol] using hq.ne_connectiveBeforeClose hblanks u c v
  no_connective_beside_connective := by
    intro u c b d v hblanks
    simpa [Connective.toList_symbol] using hq.ne_doubledConnective hblanks u c d v
  spaced_connective := by
    intro u c v h
    replace h : s = u ++ c.mark :: c.mark :: v := by simpa [Connective.toList_symbol] using h
    obtain ⟨u', x, hu, hx⟩ := hs.exists_before hq h
    obtain ⟨y, v', hv, hy⟩ := hs.exists_after hq h
    exact ⟨u', x, y, v', hu, hv, hx, hy⟩
  no_condition_behind_close := by
    intro u b v hblanks hv
    simpa using hq.ne_closeBeforeCondition hblanks u hv

theorem normalForm_settled (raw : List Char) : NormalForm (settled raw).text :=
  .of_quiet (balanced_settled raw) (spaced_settled raw) (quiet_settled raw)

/-! ## Normalizing once more -/

/-- A balanced text that a pass leaves as it is comes to rest at once. -/
theorem settled_eq_self {raw : List Char} (hb : Balanced (shield raw).text)
    (hrest : rulePass (shield raw).text = (shield raw).text) :
    settled raw = ⟨(shield raw).text, 1, true⟩ := by
  have hprepared : prepared raw = (shield raw).text := balance_eq_self hb
  rw [settled, hprepared]
  exact settle_eq (.zero hrest) (by simp [passBound]) 0

theorem normalizeChars_normalizeChars (raw : List Char) :
    normalizeChars (normalizeChars raw) = normalizeChars raw := by
  have htext := text_shield_normalizeChars raw
  have hsettled : settled (normalizeChars raw) = ⟨(settled raw).text, 1, true⟩ := by
    rw [← htext]
    refine settled_eq_self ?_ ?_
    · rw [htext]
      exact balanced_settled raw
    · rw [htext]
      exact rulePass_settled raw
  rw [normalizeChars, hsettled, shield_normalizeChars, normalizeChars]

end Normal

open RecordFilter.Normal

/-- Normalizing a normalized filter changes nothing, whatever was normalized. -/
theorem normalize_idempotent (raw : String) :
    normalize (normalize raw) = normalize raw ∧ isNormalized (normalize raw) = true := by
  have hself : normalize (normalize raw) = normalize raw := by
    simp only [normalize, String.toList_ofList, normalizeChars_normalizeChars]
  exact ⟨hself, by simp [isNormalized, hself]⟩

/-- A normalized filter is in normal form outside its literals. -/
theorem normalForm_normalize (raw : String) :
    NormalForm (shield (normalize raw).toList).text := by
  rw [normalize, String.toList_ofList, text_shield_normalizeChars]
  exact normalForm_settled raw.toList

end RecordFilter
