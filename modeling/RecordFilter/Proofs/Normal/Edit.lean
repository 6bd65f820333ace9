import RecordFilter.Proofs.Normal.Settle

/-!
# Edits

Whatever is done to a text between shielding and restoring is an *edit*: operands keep all their
characters in order, and something is written only in place of a blank, a bracket or a mark or at
the end of the text, never between two characters of an operand.

## Main statements

* `Edits.trans`: edits one after the other are one edit.
* `edits_rulePass`, `edits_settled`: a pass is an edit, and so is all that is done to a filter.
-/

namespace RecordFilter.Normal

open Text

/-- The second text is an edit of the first. -/
inductive Edits : List Char → List Char → Prop
  | nil {g : List Char} (hg : Structural g) : Edits [] g
  | keep (x : Char) {s t : List Char} (h : Edits s t) : Edits (x :: s) (x :: t)
  | swap {x : Char} {g s t : List Char} (hx : isPlain x = false) (hg : Structural g)
      (h : Edits s t) : Edits (x :: s) (g ++ t)

namespace Edits

variable {g r s t u : List Char}

theorem refl (s : List Char) : Edits s s := by
  induction s with
  | nil => exact nil structural_nil
  | cons x s ih => exact keep x ih

theorem append_left (u : List Char) (h : Edits s t) : Edits (u ++ s) (u ++ t) := by
  induction u with
  | nil => exact h
  | cons x u ih => exact keep x ih

theorem drop (hu : Structural u) (h : Edits s t) : Edits (u ++ s) t := by
  induction u with
  | nil => exact h
  | cons x u ih =>
    rw [structural_cons] at hu
    exact swap hu.1 structural_nil (ih hu.2)

theorem swap_append (hne : u ≠ []) (hu : Structural u) (hg : Structural g) (h : Edits s t) :
    Edits (u ++ s) (g ++ t) := by
  cases u with
  | nil => exact absurd rfl hne
  | cons x u =>
    rw [structural_cons] at hu
    exact swap hu.1 hg (drop hu.2 h)

/-- An edit of a text that starts with structural characters starts with structural characters. -/
theorem exists_of_structural_append (hg : Structural g) (h : Edits (g ++ s) r) :
    ∃ g' r', r = g' ++ r' ∧ Structural g' ∧ Edits s r' := by
  induction g generalizing r with
  | nil => exact ⟨[], r, rfl, structural_nil, h⟩
  | cons x g ih =>
    rw [structural_cons] at hg
    cases h with
    | keep _ h =>
      obtain ⟨g', r', rfl, hg', hr'⟩ := ih hg.2 h
      exact ⟨x :: g', r', rfl, structural_cons.2 ⟨hg.1, hg'⟩, hr'⟩
    | swap _ hk h =>
      obtain ⟨g', r', rfl, hg', hr'⟩ := ih hg.2 h
      exact ⟨_ ++ g', r', by simp, structural_append.2 ⟨hk, hg'⟩, hr'⟩

theorem structural_of_nil (h : Edits [] r) : Structural r := by
  cases h with
  | nil hg => exact hg

/-- Edits one after the other are one edit. -/
theorem trans (h : Edits s t) (h' : Edits t r) : Edits s r := by
  induction h generalizing r with
  | @nil g hg =>
    rw [← List.append_nil g] at h'
    obtain ⟨g', r', rfl, hg', hr'⟩ := exists_of_structural_append hg h'
    exact nil (structural_append.2 ⟨hg', hr'.structural_of_nil⟩)
  | keep x h ih =>
    cases h' with
    | keep _ h' => exact keep x (ih h')
    | swap hx hg h' => exact swap hx hg (ih h')
  | swap hx hg h ih =>
    obtain ⟨g', r', rfl, hg', hr'⟩ := exists_of_structural_append hg h'
    exact swap hx hg' (ih hr')

/-- The characters of operands stay, in order. -/
theorem filter_isPlain (h : Edits s t) : t.filter isPlain = s.filter isPlain := by
  have hnone : ∀ {g : List Char}, Structural g → g.filter isPlain = [] := by
    intro g hg
    simpa [List.filter_eq_nil_iff, Structural] using hg
  induction h with
  | nil hg => exact hnone hg
  | keep x h ih => simp [List.filter_cons, ih]
  | swap hx hg h ih => simp [hnone hg, hx, ih]

theorem mem_iff {x : Char} (h : Edits s t) (hx : isPlain x = true) : x ∈ t ↔ x ∈ s := by
  have hfilter : x ∈ t.filter isPlain ↔ x ∈ s.filter isPlain := by rw [h.filter_isPlain]
  simpa [hx] using hfilter

/-- Nothing is written between or in front of the first characters of an operand. -/
theorem exists_of_plain_append {w : List Char} (hw : ∀ x ∈ w, isPlain x = true)
    (h : Edits (w ++ s) t) : ∃ t', t = w ++ t' ∧ Edits s t' := by
  induction w generalizing t with
  | nil => exact ⟨t, rfl, h⟩
  | cons x w ih =>
    have hx := hw x (by simp)
    cases h with
    | keep _ h =>
      obtain ⟨t', rfl, ht'⟩ := ih (fun y hy => hw y (by simp [hy])) h
      exact ⟨t', rfl, ht'⟩
    | swap hx' =>
      rw [hx] at hx'
      cases hx'

end Edits

/-! ## What is done to a filter -/

theorem edits_balanceFrom (d : Nat) (s : List Char) : Edits s (balanceFrom d s) := by
  induction s generalizing d with
  | nil =>
    refine .nil fun x hx => ?_
    rw [List.eq_of_mem_replicate hx]
    exact isPlain_close
  | cons x s ih =>
    by_cases hclose : x = ')'
    · subst hclose
      cases d with
      | zero =>
        rw [balanceFrom, if_pos rfl]
        exact Edits.swap isPlain_close structural_nil (ih 0)
      | succ d => simpa [balanceFrom] using (ih d).keep ')'
    · by_cases hopen : x = '('
      · simpa [balanceFrom, hopen] using (ih (d + 1)).keep '('
      · simpa [balanceFrom, hclose, hopen] using (ih d).keep x

theorem edits_replaceAll {p : Pattern} (hp : Covers p) (s : List Char) :
    Edits s (replaceAll p s) := by
  refine replaceAll_induction hp.consumes (motive := Edits) (.refl []) ?_ ?_ s
  · exact fun x s _ ih => ih.keep x
  · intro x s o ho ih
    obtain ⟨u, hne, hs, hu, hnew⟩ := hp _ o ho
    rw [hs]
    exact .swap_append hne hu hnew ih

theorem edits_dropLeadingConnective (s : List Char) : Edits s (dropLeadingConnective s) := by
  rcases dropLeadingConnective_cases s with ⟨-, hself⟩ | ⟨c, b, b', r, hb, hb', -, rfl, hr⟩
  · rw [hself]
    exact .refl s
  · have hu : Structural (b ++ [c.mark, c.mark] ++ b') := by
      simp [structural_of_blanks hb, structural_of_blanks hb']
    rw [hr]
    simpa using Edits.drop hu (.refl r)

theorem edits_trim (s : List Char) : Edits s (trim s) := by
  obtain ⟨b, b', hb, hb', hs⟩ := exists_blanks_trim s
  have hlast : Edits (trim s ++ b') (trim s) := by
    simpa using Edits.append_left (trim s) (.drop (structural_of_blanks hb') (.refl []))
  have hfirst := Edits.drop (structural_of_blanks hb) hlast
  rwa [← List.append_assoc, ← hs] at hfirst

/-- A pass is an edit. -/
theorem edits_rulePass (s : List Char) : Edits s (rulePass s) :=
  (edits_replaceAll covers_emptyGroup s)
    |>.trans (edits_replaceAll covers_connectiveBeforeClose _)
    |>.trans (edits_replaceAll covers_connectiveAfterOpen _)
    |>.trans (edits_replaceAll covers_doubledConnective _)
    |>.trans (edits_dropLeadingConnective _)
    |>.trans (edits_replaceAll covers_trailingConnective _)
    |>.trans (edits_replaceAll covers_closeBeforeCondition _)
    |>.trans (edits_replaceAll covers_looseConnective _)
    |>.trans (edits_replaceAll covers_blankRun _)
    |>.trans (edits_trim _)

/-- All that is done to a shielded filter is one edit. -/
theorem edits_settled (raw : List Char) : Edits (shield raw).text (settled raw).text :=
  settled_induction raw (edits_balanceFrom 0 _) fun s h => h.trans (edits_rulePass s)

end RecordFilter.Normal
