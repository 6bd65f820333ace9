import RecordFilter.Text.Blank
import RecordFilter.Text.Word

/-!
# Runs of blanks

Every text is a run of blanks followed by a *solid* text, one that does not start with a blank. The
functions that skip blanks are characterised by this decomposition, so that facts about patterns can
be stated by saying what a text looks like.
-/

namespace RecordFilter.Text

/-- The text holds nothing but blanks. -/
def Blanks (b : List Char) : Prop := ∀ x ∈ b, isBlank x = true

/-- The text does not start with a blank. -/
def Solid (s : List Char) : Prop := skipBlanks s = s

@[simp] theorem blanks_nil : Blanks [] := by simp [Blanks]

@[simp] theorem blanks_cons {x : Char} {b : List Char} :
    Blanks (x :: b) ↔ isBlank x = true ∧ Blanks b := by
  simp [Blanks]

@[simp] theorem solid_nil : Solid [] := rfl

@[simp] theorem solid_cons {x : Char} {s : List Char} : Solid (x :: s) ↔ isBlank x = false := by
  unfold Solid
  rw [skipBlanks_cons]
  cases h : isBlank x
  · simp
  · simp only [if_true, Bool.true_eq_false, iff_false]
    intro he
    have hlen := length_skipBlanks_le s
    rw [he, List.length_cons] at hlen
    omega

@[simp] theorem solid_skipBlanks (s : List Char) : Solid (skipBlanks s) := skipBlanks_skipBlanks s

@[simp] theorem skipBlanks_of_solid {s : List Char} (h : Solid s) : skipBlanks s = s := h

theorem skipBlanks_append {b : List Char} (hb : Blanks b) (s : List Char) :
    skipBlanks (b ++ s) = skipBlanks s := by
  induction b with
  | nil => rfl
  | cons x b ih =>
    rw [blanks_cons] at hb
    simp [skipBlanks_cons, hb.1, ih hb.2]

theorem skipBlanks_append_of_solid {b s : List Char} (hb : Blanks b) (hs : Solid s) :
    skipBlanks (b ++ s) = s := (skipBlanks_append hb s).trans hs

/-- A character in front of blanks and a text that is not blank is the first of that text. -/
theorem eq_cons_of_blanks_append {b s r : List Char} {x : Char} (hb : Blanks b)
    (hx : isBlank x = false) (h : b ++ s = x :: r) : s = x :: r := by
  cases b with
  | nil => exact h
  | cons y b =>
    have hy := (blanks_cons.1 hb).1
    rw [(List.cons.inj h).1, hx] at hy
    cases hy

/-- A text is the blanks it starts with and what is left after skipping them. -/
theorem exists_blanks_skipBlanks (s : List Char) : ∃ b, Blanks b ∧ s = b ++ skipBlanks s := by
  induction s with
  | nil => exact ⟨[], by simp⟩
  | cons x s ih =>
    obtain ⟨b, hb, hs⟩ := ih
    cases hx : isBlank x
    · exact ⟨[], by simp [hx]⟩
    · refine ⟨x :: b, by simp [hx, hb], ?_⟩
      simpa [skipBlanks_cons, hx] using hs

/-- What is left after skipping blanks is the solid end behind some run of blanks. -/
theorem skipBlanks_eq_iff {s r : List Char} :
    skipBlanks s = r ↔ ∃ b, Blanks b ∧ Solid r ∧ s = b ++ r := by
  constructor
  · rintro rfl
    obtain ⟨b, hb, hs⟩ := exists_blanks_skipBlanks s
    exact ⟨b, hb, solid_skipBlanks s, hs⟩
  · rintro ⟨b, hb, hr, rfl⟩
    exact skipBlanks_append_of_solid hb hr

theorem skipBlanks_eq_nil_iff {s : List Char} : skipBlanks s = [] ↔ Blanks s := by
  rw [skipBlanks_eq_iff]
  constructor
  · rintro ⟨b, hb, -, rfl⟩
    simpa using hb
  · intro h
    exact ⟨s, h, by simp⟩

theorem Blanks.reverse {b : List Char} (h : Blanks b) : Blanks b.reverse := by
  intro x hx
  exact h x (List.mem_reverse.1 hx)

/-- A text is what trimming its end leaves, followed by a run of blanks. -/
theorem exists_blanks_dropTrailingBlanks (s : List Char) :
    ∃ b, Blanks b ∧ s = dropTrailingBlanks s ++ b := by
  obtain ⟨b, hb, hs⟩ := exists_blanks_skipBlanks s.reverse
  refine ⟨b.reverse, hb.reverse, ?_⟩
  have hrev := congrArg List.reverse hs
  simpa [dropTrailingBlanks, skipBlanks] using hrev

/-- A text is what trimming leaves, between two runs of blanks. -/
theorem exists_blanks_trim (s : List Char) :
    ∃ b b', Blanks b ∧ Blanks b' ∧ s = b ++ trim s ++ b' := by
  obtain ⟨b, hb, hs⟩ := exists_blanks_skipBlanks s
  obtain ⟨b', hb', ht⟩ := exists_blanks_dropTrailingBlanks (skipBlanks s)
  refine ⟨b, b', hb, hb', ?_⟩
  rw [List.append_assoc, trim, ← ht, ← hs]

/-- A run of characters of one kind ends where a character of another kind comes. -/
theorem run_append_inj {p : Char → Bool} {s t v w : List Char} {x y : Char}
    (hs : ∀ a ∈ s, p a = true) (ht : ∀ a ∈ t, p a = true) (hx : p x = false) (hy : p y = false)
    (h : s ++ x :: v = t ++ y :: w) : s = t ∧ x :: v = y :: w := by
  have htake := congrArg (List.takeWhile p) h
  rw [List.takeWhile_append_of_pos hs, List.takeWhile_append_of_pos ht] at htake
  have hst : s = t := by simpa [hx, hy] using htake
  rw [hst] at h
  exact ⟨hst, List.append_cancel_left h⟩

/-! ## Blanks and words -/

/-- A code point of a class lies in one of its runs. -/
theorem CharClass.exists_run_of_holds {t : CharClass} {n : Nat} (h : t.holds n = true) :
    ∃ run ∈ t, run.1 ≤ n ∧ n ≤ run.2 := by
  induction t with
  | nil => simp [holds] at h
  | cons run t ih =>
    unfold holds at h
    split at h
    · cases h
    · split at h
      · exact ⟨run, by simp, by omega, by omega⟩
      · obtain ⟨r, hr, hn⟩ := ih h
        exact ⟨r, by simp [hr], hn⟩

/-- Two classes share no code point if no code point of a run of the one is in the other. -/
theorem CharClass.holds_eq_false_of_disjoint {t u : CharClass}
    (h : ∀ run ∈ t, ∀ k ≤ run.2 - run.1, u.holds (run.1 + k) = false) {n : Nat}
    (hn : t.holds n = true) : u.holds n = false := by
  obtain ⟨run, hrun, hlo, hhi⟩ := exists_run_of_holds hn
  have hk := h run hrun (n - run.1) (by omega)
  rwa [Nat.add_sub_cancel' hlo] at hk

/-- No blank is a word character. -/
theorem isWordChar_of_isBlank {x : Char} (h : isBlank x = true) : isWordChar x = false :=
  CharClass.holds_eq_false_of_disjoint (by decide +kernel) h

/-- No blank is a letter of the ASCII alphabet or an underscore. -/
theorem isBlank_of_isNameStart {x : Char} (h : isNameStart x = true) : isBlank x = false := by
  have hrange : (65 ≤ x.toNat ∧ x.toNat ≤ 90) ∨ (97 ≤ x.toNat ∧ x.toNat ≤ 122) ∨ x.toNat = 95 := by
    change (x.isUpper || x.isLower || x == '_') = true at h
    rw [Bool.or_eq_true, Bool.or_eq_true, beq_iff_eq] at h
    rcases h with (h | h) | rfl
    · obtain ⟨h₁, h₂⟩ : x.val ≥ 'A'.val ∧ x.val ≤ 'Z'.val := of_decide_eq_true h
      exact .inl ⟨h₁, h₂⟩
    · obtain ⟨h₁, h₂⟩ := Bool.and_eq_true_iff.mp h
      exact .inr (.inl ⟨of_decide_eq_true h₁, of_decide_eq_true h₂⟩)
    · exact .inr (.inr rfl)
  cases hx : isBlank x with
  | false => rfl
  | true =>
    obtain ⟨run, hrun, hlo, hhi⟩ := CharClass.exists_run_of_holds hx
    simp only [blanks, List.mem_cons, List.not_mem_nil, or_false] at hrun
    rcases hrun with rfl | rfl | rfl | rfl | rfl | rfl | rfl | rfl | rfl | rfl <;> grind

end RecordFilter.Text
