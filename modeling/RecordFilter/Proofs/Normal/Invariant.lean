import RecordFilter.Proofs.Normal.Rule

/-!
# What a pass cannot change

The rules delete and write nothing but blanks, the marks of connectives and empty groups. So a pass
keeps every quantity of a text that *overlooks* these: the number of open brackets, for one, and all
that stands between the connectives.

## Main statements

* `Overlooks.apply_rulePass`: a pass keeps what overlooks blanks, marks and empty groups.
-/

namespace RecordFilter.Normal

open Text

/-- The quantity is computed from the end of a text on, and a blank, a mark or an empty group in
front of a text makes no difference to it. -/
structure Overlooks {α : Type} (f : List Char → α) : Prop where
  cons : ∀ x {s t : List Char}, f s = f t → f (x :: s) = f (x :: t)
  blank : ∀ {x} (s : List Char), isBlank x = true → f (x :: s) = f s
  mark : ∀ (c : Connective) (s : List Char), f (c.mark :: s) = f s
  pair : ∀ s : List Char, f ('(' :: ')' :: s) = f s

namespace Overlooks

variable {α : Type} {f : List Char → α} {b s t : List Char} (h : Overlooks f)

include h

theorem append_left (u : List Char) (hst : f s = f t) : f (u ++ s) = f (u ++ t) := by
  induction u with
  | nil => exact hst
  | cons x u ih => exact h.cons x ih

theorem blanks (hb : Blanks b) (s : List Char) : f (b ++ s) = f s := by
  induction b with
  | nil => rfl
  | cons x b ih =>
    rw [blanks_cons] at hb
    rw [List.cons_append, h.blank _ hb.1, ih hb.2]

theorem marks (c : Connective) (s : List Char) : f (c.mark :: c.mark :: s) = f s := by
  rw [h.mark, h.mark]

/-- A connective may stand between blanks. -/
theorem connective {b' : List Char} (hb : Blanks b) (hb' : Blanks b') (c : Connective)
    (s : List Char) : f (b ++ c.mark :: c.mark :: (b' ++ s)) = f s := by
  rw [h.blanks hb, h.marks, h.blanks hb']

/-! ## Rules -/

/-- It is enough to look at single occurrences. -/
theorem apply_replaceAll {p : Pattern} (hp : Covers p)
    (hkeep : ∀ s o, p s = some o → f (o.new ++ o.rest) = f s) (s : List Char) :
    f (replaceAll p s) = f s := by
  refine replaceAll_induction hp.consumes (motive := fun s t => f t = f s) rfl ?_ ?_ s
  · exact fun x s _ ih => h.cons x ih
  · intro x s o ho ih
    rw [h.append_left o.new ih, hkeep _ o ho]

theorem apply_emptyGroup (s : List Char) : f (replaceAll emptyGroup s) = f s := by
  refine h.apply_replaceAll covers_emptyGroup (fun s o ho => ?_) s
  obtain ⟨hnew, b, hb, rfl⟩ := emptyGroup_eq_some_iff.1 ho
  have hinside := h.cons '(' (h.blanks hb (')' :: o.rest))
  rw [hnew, List.cons_append, hinside, h.pair]
  rfl

theorem apply_connectiveBeforeClose (s : List Char) :
    f (replaceAll connectiveBeforeClose s) = f s := by
  refine h.apply_replaceAll covers_connectiveBeforeClose (fun s o ho => ?_) s
  obtain ⟨hnew, c, b, b', hb, hb', rfl⟩ := connectiveBeforeClose_eq_some_iff.1 ho
  rw [hnew, h.connective hb hb']
  rfl

theorem apply_connectiveAfterOpen (s : List Char) :
    f (replaceAll connectiveAfterOpen s) = f s := by
  refine h.apply_replaceAll covers_connectiveAfterOpen (fun s o ho => ?_) s
  obtain ⟨hnew, -, c, b, b', hb, hb', rfl⟩ := connectiveAfterOpen_eq_some_iff.1 ho
  have hinside := h.cons '(' (h.connective hb hb' c o.rest)
  rw [hnew, hinside]
  rfl

theorem apply_doubledConnective (s : List Char) :
    f (replaceAll doubledConnective s) = f s := by
  refine h.apply_replaceAll covers_doubledConnective (fun s o ho => ?_) s
  obtain ⟨c, d, b, hb, hnew, rfl⟩ := doubledConnective_eq_some_iff.1 ho
  rw [hnew, h.marks c, h.blanks hb]
  rfl

theorem apply_dropLeadingConnective (s : List Char) : f (dropLeadingConnective s) = f s := by
  rcases dropLeadingConnective_cases s with ⟨-, hself⟩ | ⟨c, b, b', r, hb, hb', -, rfl, hr⟩
  · rw [hself]
  · rw [hr, h.connective hb hb']

theorem apply_trailingConnective (s : List Char) :
    f (replaceAll trailingConnective s) = f s := by
  refine h.apply_replaceAll covers_trailingConnective (fun s o ho => ?_) s
  obtain ⟨rfl, c, b, b', hb, hb', rfl⟩ := trailingConnective_eq_some_iff.1 ho
  have hnone := h.connective hb hb' c []
  rw [List.append_nil] at hnone
  rw [hnone]
  rfl

theorem apply_closeBeforeCondition (s : List Char) :
    f (replaceAll closeBeforeCondition s) = f s := by
  refine h.apply_replaceAll covers_closeBeforeCondition (fun s o ho => ?_) s
  obtain ⟨hnew, -, b, hb, rfl⟩ := closeBeforeCondition_eq_some_iff.1 ho
  have hspace : Blanks [' '] := by simp
  rw [hnew]
  refine h.cons ')' ?_
  exact (h.connective hspace hspace .and o.rest).trans (h.blanks hb o.rest).symm

theorem apply_looseConnective (s : List Char) :
    f (replaceAll looseConnective s) = f s := by
  refine h.apply_replaceAll covers_looseConnective (fun s o ho => ?_) s
  obtain ⟨-, c, b, b', hb, hb', hnew, rfl⟩ := looseConnective_eq_some_iff.1 ho
  have hspace : Blanks [' '] := by simp
  rw [hnew, h.connective hb hb']
  exact h.connective hspace hspace c o.rest

theorem apply_blankRun (s : List Char) : f (replaceAll blankRun s) = f s := by
  refine h.apply_replaceAll covers_blankRun (fun s o ho => ?_) s
  obtain ⟨hnew, -, x, b, hx, hb, rfl⟩ := blankRun_eq_some_iff.1 ho
  rw [hnew, h.blank _ hx, h.blanks hb]
  exact h.blank o.rest isBlank_space

theorem apply_trim (s : List Char) : f (trim s) = f s := by
  obtain ⟨b, b', hb, hb', hs⟩ := exists_blanks_trim s
  have hend : f b' = f [] := by simpa using h.blanks hb' []
  calc f (trim s) = f (trim s ++ b') := by
        rw [h.append_left (trim s) hend, List.append_nil]
    _ = f (b ++ (trim s ++ b')) := (h.blanks hb _).symm
    _ = f s := by rw [← List.append_assoc, ← hs]

/-- A pass keeps what overlooks blanks, marks and empty groups. -/
theorem apply_rulePass (s : List Char) : f (rulePass s) = f s := by
  simp only [rulePass, h.apply_trim, h.apply_blankRun, h.apply_looseConnective,
    h.apply_closeBeforeCondition, h.apply_trailingConnective, h.apply_dropLeadingConnective,
    h.apply_doubledConnective, h.apply_connectiveAfterOpen,
    h.apply_connectiveBeforeClose, h.apply_emptyGroup]

end Overlooks

end RecordFilter.Normal
