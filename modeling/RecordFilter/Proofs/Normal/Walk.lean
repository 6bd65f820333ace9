import RecordFilter.Normal.Bracket
import RecordFilter.Proofs.Normal.Rule

/-!
# What a walk passes over

Nothing is found inside an operand, and most patterns find nothing in a run of blanks either, so a
walk with them copies both and goes on behind. Collapsing blanks, trimming and bracket repair pass
over what they leave alone in the same way.

## Main statements

* `replaceAll_plain_append`, `replaceAll_blanks_append`: operands and blanks under a pattern.
* `replaceAll_of_eq_some`: where an occurrence starts.
-/

namespace RecordFilter.Normal

open Text

section
variable {pat : Pattern} {b s u : List Char}

theorem replaceAll_of_eq_some (hpat : Covers pat) {o : Occurrence} (h : pat s = some o) :
    replaceAll pat s = o.new ++ replaceAll pat o.rest := by
  cases s with
  | nil =>
    obtain ⟨u, hne, hu, -⟩ := hpat _ o h
    exact absurd (List.append_eq_nil_iff.1 hu.symm).1 hne
  | cons x s => exact replaceAll_cons_some h (hpat.consumes x s o h)

theorem replaceAll_plain_append (hpat : Covers pat) (hu : ∀ x ∈ u, isPlain x = true)
    (s : List Char) : replaceAll pat (u ++ s) = u ++ replaceAll pat s := by
  induction u with
  | nil => rfl
  | cons x u ih =>
    have hnone : pat (x :: u ++ s) = none := by
      rw [Option.eq_none_iff_forall_ne_some]
      intro o ho
      obtain ⟨v, hne, hv, hstruct, -⟩ := hpat _ o ho
      cases v with
      | nil => exact hne rfl
      | cons y v =>
        have hy := (structural_cons.1 hstruct).1
        rw [← (List.cons.inj hv).1, hu x (by simp)] at hy
        cases hy
    have htail := ih fun y hy => hu y (by simp [hy])
    exact (replaceAll_cons_none hnone).trans (congrArg (x :: ·) htail)

/-! ## Blanks -/

/-- Blanks stay if no occurrence starts with any of them. -/
theorem replaceAll_append_of_none (hpat : ∀ {b}, Blanks b → b ≠ [] → pat (b ++ s) = none)
    (hb : Blanks b) : replaceAll pat (b ++ s) = b ++ replaceAll pat s := by
  induction b with
  | nil => rfl
  | cons x b ih =>
    have hnone : pat (x :: (b ++ s)) = none := hpat hb (by simp)
    exact (replaceAll_cons_none hnone).trans (congrArg (x :: ·) (ih (blanks_cons.1 hb).2))

theorem replaceAll_blanks (hpat : ∀ {b}, Blanks b → pat b = none) (hb : Blanks b) :
    replaceAll pat b = b := by
  have hcopy := replaceAll_append_of_none (s := [])
    (fun hb _ => by simpa using hpat hb) hb
  simpa using hcopy

/-- A pattern that starts with a character that is not blank finds nothing in blanks. -/
theorem replaceAll_blanks_append (hpat : ∀ x s, isBlank x = true → pat (x :: s) = none)
    (hb : Blanks b) (s : List Char) : replaceAll pat (b ++ s) = b ++ replaceAll pat s := by
  refine replaceAll_append_of_none ?_ hb
  rintro (_ | ⟨x, b⟩) hb hne
  · exact absurd rfl hne
  · exact hpat x (b ++ s) (blanks_cons.1 hb).1

theorem none_of_blanks (hnil : pat [] = none)
    (hpat : ∀ x s, isBlank x = true → pat (x :: s) = none) {b : List Char} (hb : Blanks b) :
    pat b = none := by
  cases b with
  | nil => exact hnil
  | cons x b => exact hpat x b (blanks_cons.1 hb).1

end

theorem emptyGroup_cons_blank (x : Char) (s : List Char) (hx : isBlank x = true) :
    emptyGroup (x :: s) = none := by
  have hne : x ≠ '(' := by rintro rfl; simp at hx
  simp [emptyGroup, hne]

theorem connectiveAfterOpen_cons_blank (x : Char) (s : List Char) (hx : isBlank x = true) :
    connectiveAfterOpen (x :: s) = none := by
  have hne : x ≠ '(' := by rintro rfl; simp at hx
  simp [connectiveAfterOpen, hne]

theorem doubledConnective_cons_blank (x : Char) (s : List Char) (hx : isBlank x = true) :
    doubledConnective (x :: s) = none := by
  rw [Option.eq_none_iff_forall_ne_some]
  intro o ho
  obtain ⟨c, d, b, -, -, heq⟩ := doubledConnective_eq_some_iff.1 ho
  rw [(List.cons.inj heq).1] at hx
  simp at hx

theorem closeBeforeCondition_cons_blank (x : Char) (s : List Char) (hx : isBlank x = true) :
    closeBeforeCondition (x :: s) = none := by
  have hne : x ≠ ')' := by rintro rfl; simp at hx
  simp [closeBeforeCondition, hne]

theorem connectiveAhead?_blanks {b : List Char} (hb : Blanks b) : connectiveAhead? b = none := by
  rw [connectiveAhead?, skipBlanks_eq_nil_iff.2 hb]
  rfl

/-! ## Collapsing, trimming and repair -/

theorem replaceAll_blankRun_append {u : List Char} (hu : ∀ x ∈ u, isBlank x = false)
    (s : List Char) : replaceAll blankRun (u ++ s) = u ++ replaceAll blankRun s := by
  induction u with
  | nil => rfl
  | cons x u ih =>
    have hnone : blankRun (x :: (u ++ s)) = none := by simp [blankRun, hu x (by simp)]
    exact (replaceAll_cons_none hnone).trans
      (congrArg (x :: ·) (ih fun y hy => hu y (by simp [hy])))

theorem replaceAll_blankRun_cons_append {x : Char} {b s : List Char} (hb : Blanks (x :: b))
    (hs : Solid s) : replaceAll blankRun (x :: b ++ s) = ' ' :: replaceAll blankRun s := by
  obtain ⟨hx, hb⟩ := blanks_cons.1 hb
  have hfind : blankRun (x :: b ++ s) = some ⟨[' '], s⟩ :=
    blankRun_eq_some_iff.2 ⟨rfl, hs, x, b, hx, hb, rfl⟩
  exact replaceAll_of_eq_some covers_blankRun hfind

theorem dropTrailingBlanks_append (u : List Char) {x : Char} (hx : isBlank x = false)
    (s : List Char) : dropTrailingBlanks (u ++ x :: s) = u ++ x :: dropTrailingBlanks s := by
  have hrev : (u ++ x :: s).reverse = s.reverse ++ x :: u.reverse := by simp
  rw [dropTrailingBlanks, dropTrailingBlanks, hrev, List.dropWhile_append]
  split
  · next h =>
    rw [List.isEmpty_iff] at h
    simp [h, hx]
  · simp

theorem balanceFrom_append {u : List Char} (hopen : '(' ∉ u) (hclose : ')' ∉ u) (d : Nat)
    (s : List Char) : balanceFrom d (u ++ s) = u ++ balanceFrom d s := by
  induction u with
  | nil => rfl
  | cons x u ih =>
    rw [List.mem_cons, not_or] at hopen hclose
    simp [balanceFrom, Ne.symm hopen.1, Ne.symm hclose.1, ih hopen.2 hclose.2]

end RecordFilter.Normal
