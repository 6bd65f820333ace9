import RecordFilter.Proofs.Normal.Rule

/-!
# The debt of a text

A pass can make a text longer, since a group may be given a connective, so the length does not say
how much clean-up is left. The *debt* does. A mark of a connective counts one and a closing bracket
counts two; a closing bracket with an operand right behind it counts six, because it may still be
given the two marks of a connective and will then count two.

Each of the first seven rules lowers the debt by two or more when it finds something, the two rules
for spacing never raise it, and a balanced text owes at most twice its length.

## Main statements

* `Pays.cheaper_replaceAll`: the walk of a paying pattern pays, unless it finds nothing.
* `quiet_or_debt_rulePass`: a pass lowers the debt, or it only sets the spacing right.
* `debt_add_count_open_le`: the bound on what is owed at first.
-/

namespace RecordFilter.Normal

open Text

/-! ## Debt -/

/-- Is the first character behind any blanks a part of an operand? -/
def operandAhead (s : List Char) : Bool :=
  match skipBlanks s with
  | [] => false
  | x :: _ => isPlain x

/-- How much clean-up a text can still cause. -/
def debt : List Char → Nat
  | [] => 0
  | x :: s =>
    (if x = ')' then if operandAhead s then 6 else 2 else if isMark x then 1 else 0) + debt s

/-- The debt of a text that stands behind a closing bracket, with what it adds to the bracket's. -/
def debtBehind (s : List Char) : Nat := debt s + if operandAhead s then 4 else 0

theorem operandAhead_append {b : List Char} (hb : Blanks b) (s : List Char) :
    operandAhead (b ++ s) = operandAhead s := by
  simp [operandAhead, skipBlanks_append hb]

theorem operandAhead_cons {x : Char} (hx : isBlank x = false) (s : List Char) :
    operandAhead (x :: s) = isPlain x := by
  simp [operandAhead, skipBlanks_of_solid (solid_cons.2 hx)]

theorem operandAhead_cons_blank {x : Char} (hx : isBlank x = true) (s : List Char) :
    operandAhead (x :: s) = operandAhead s :=
  operandAhead_append (b := [x]) (by simp [hx]) s

theorem debt_cons_blank {x : Char} (hx : isBlank x = true) (s : List Char) :
    debt (x :: s) = debt s := by
  have hclose : x ≠ ')' := by rintro rfl; simp at hx
  simp [debt, hclose, isMark_of_isBlank hx]

theorem debt_append {b : List Char} (hb : Blanks b) (s : List Char) : debt (b ++ s) = debt s := by
  induction b with
  | nil => rfl
  | cons x b ih =>
    rw [blanks_cons] at hb
    rw [List.cons_append, debt_cons_blank hb.1, ih hb.2]

@[simp] theorem debt_close (s : List Char) : debt (')' :: s) = 2 + debtBehind s := by
  simp only [debt, debtBehind, if_true]
  split <;> omega

@[simp] theorem debt_open (s : List Char) : debt ('(' :: s) = debt s := by simp [debt, isMark]

@[simp] theorem debt_marks (c : Connective) (s : List Char) :
    debt (c.mark :: c.mark :: s) = 2 + debt s := by
  simp [debt]
  omega

theorem debtBehind_append {b : List Char} (hb : Blanks b) (s : List Char) :
    debtBehind (b ++ s) = debtBehind s := by
  simp [debtBehind, debt_append hb, operandAhead_append hb]

theorem debtBehind_cons_blank {x : Char} (hx : isBlank x = true) (s : List Char) :
    debtBehind (x :: s) = debtBehind s :=
  debtBehind_append (b := [x]) (by simp [hx]) s

theorem debtBehind_cons {x : Char} (hx : isBlank x = false) (s : List Char) :
    debtBehind (x :: s) = debt (x :: s) + if isPlain x then 4 else 0 := by
  simp [debtBehind, operandAhead_cons hx]

theorem operandAhead_append_right {b : List Char} (hb : Blanks b) (s : List Char) :
    operandAhead (s ++ b) = operandAhead s := by
  induction s with
  | nil => simp [operandAhead, skipBlanks_eq_nil_iff.2 hb]
  | cons x s ih =>
    cases hx : isBlank x with
    | true => rw [List.cons_append, operandAhead_cons_blank hx, ih, operandAhead_cons_blank hx]
    | false => rw [List.cons_append, operandAhead_cons hx, operandAhead_cons hx]

theorem debt_append_right {b : List Char} (hb : Blanks b) (s : List Char) :
    debt (s ++ b) = debt s := by
  induction s with
  | nil => simpa using debt_append hb []
  | cons x s ih => simp only [List.cons_append, debt, ih, operandAhead_append_right hb]

/-- Blanks at the ends of a text owe nothing. -/
theorem debt_trim (s : List Char) : debt (trim s) = debt s := by
  obtain ⟨b, b', hb, hb', hs⟩ := exists_blanks_trim s
  calc debt (trim s) = debt (b ++ trim s ++ b') := by rw [debt_append_right hb', debt_append hb]
    _ = debt s := by rw [← hs]

/-- What a text owes at first: its closing brackets, its marks, and the operands that may still be
given a connective are different characters of it. -/
theorem debt_add_count_open_le (s : List Char) :
    debt s + (if operandAhead s then 2 else 0) + 2 * s.count '(' ≤
      2 * s.length + 2 * s.count ')' := by
  induction s with
  | nil => simp [debt, operandAhead]
  | cons x s ih =>
    by_cases hclose : x = ')'
    · subst hclose
      simp only [debt_close, debtBehind, operandAhead_cons isBlank_close, isPlain_close,
        List.count_cons_self, List.length_cons, List.count_cons_of_ne (by decide : ')' ≠ '(')]
      split at ih <;> simp_all <;> omega
    by_cases hopen : x = '('
    · subst hopen
      simp only [debt_open, operandAhead_cons isBlank_open, isPlain_open, List.count_cons_self,
        List.length_cons, List.count_cons_of_ne (by decide : '(' ≠ ')')]
      simp
      omega
    rw [List.count_cons_of_ne hopen, List.count_cons_of_ne hclose, List.length_cons]
    cases hx : isBlank x with
    | true =>
      rw [debt_cons_blank hx, operandAhead_cons_blank hx]
      omega
    | false =>
      have hmark : isPlain x = !isMark x := by simp [isPlain, hx, hopen, hclose]
      rw [operandAhead_cons hx, hmark]
      cases hm : isMark x <;> simp [debt, hclose, hm] <;> omega

/-! ## Patterns that pay -/

/-- The text owes no more than the other one, also behind a closing bracket, less `n`. -/
structure Cheaper (n : Nat) (t s : List Char) : Prop where
  ahead : operandAhead s = true → operandAhead t = true
  behind : debtBehind t + n ≤ debtBehind s

theorem Cheaper.debt_le {n : Nat} {s t : List Char} (h : Cheaper n t s) : debt t + n ≤ debt s := by
  have hle := h.behind
  unfold debtBehind at hle
  cases hs : operandAhead s
  · simp only [hs, Bool.false_eq_true, if_false] at hle
    omega
  · simp only [hs, h.ahead hs, if_true] at hle
    omega

/-- A character in front of both texts changes nothing. -/
theorem Cheaper.cons {n : Nat} {s t : List Char} (h : Cheaper n t s) (x : Char) :
    Cheaper n (x :: t) (x :: s) := by
  cases hx : isBlank x with
  | true =>
    refine ⟨fun hs => ?_, ?_⟩
    · rw [operandAhead_cons_blank hx] at hs ⊢
      exact h.ahead hs
    · rw [debtBehind_cons_blank hx, debtBehind_cons_blank hx]
      exact h.behind
  | false =>
    refine ⟨fun hs => ?_, ?_⟩
    · rw [operandAhead_cons hx] at hs ⊢
      exact hs
    · have hdebt := h.debt_le
      rw [debtBehind_cons hx, debtBehind_cons hx]
      by_cases hclose : x = ')'
      · subst hclose
        have := h.behind
        simp
        omega
      · simp only [debt, hclose, if_false]
        omega

/-- Every occurrence of the pattern pays `n`, whatever a cheaper rest is put behind it. -/
def Pays (n : Nat) (p : Pattern) : Prop :=
  ∀ s o, p s = some o → ∀ t, Cheaper 0 t o.rest → Cheaper n (o.new ++ t) s

/-- The walk of a paying pattern pays, unless it finds nothing. -/
theorem Pays.cheaper_replaceAll {n : Nat} {p : Pattern} (hp : Consumes p) (h : Pays n p)
    (s : List Char) :
    Cheaper 0 (replaceAll p s) s ∧ (Absent p s ∨ Cheaper n (replaceAll p s) s) := by
  refine replaceAll_induction hp
    (motive := fun s t => Cheaper 0 t s ∧ (Absent p s ∨ Cheaper n t s)) ?_ ?_ ?_ s
  · exact ⟨⟨id, Nat.le_refl _⟩, .inl (absent_nil p)⟩
  · rintro x s hx ⟨hle, habsent | hlt⟩
    · exact ⟨hle.cons x, .inl (absent_cons.2 ⟨hx, habsent⟩)⟩
    · exact ⟨hle.cons x, .inr (hlt.cons x)⟩
  · rintro x s o ho ⟨hle, -⟩
    have hpaid := h _ o ho _ hle
    exact ⟨⟨hpaid.ahead, by have := hpaid.behind; omega⟩, .inr hpaid⟩

theorem pays_emptyGroup : Pays 2 emptyGroup := by
  intro s o ho t ht
  obtain ⟨hnew, b, hb, rfl⟩ := emptyGroup_eq_some_iff.1 ho
  have hbehind := ht.behind
  refine ⟨fun h => ?_, ?_⟩
  · simp [operandAhead_cons] at h
  · simp [hnew, debtBehind_cons, debt_append hb]
    omega

theorem pays_connectiveBeforeClose : Pays 2 connectiveBeforeClose := by
  intro s o ho t ht
  obtain ⟨hnew, c, b, b', hb, hb', rfl⟩ := connectiveBeforeClose_eq_some_iff.1 ho
  have hbehind := ht.behind
  refine ⟨fun h => ?_, ?_⟩
  · simp [operandAhead_append hb, operandAhead_cons] at h
  · simp [hnew, debtBehind_append hb, debtBehind_cons, debt_append hb']
    omega

theorem pays_connectiveAfterOpen : Pays 2 connectiveAfterOpen := by
  intro s o ho t ht
  obtain ⟨hnew, -, c, b, b', hb, hb', rfl⟩ := connectiveAfterOpen_eq_some_iff.1 ho
  have hdebt := ht.debt_le
  refine ⟨fun h => ?_, ?_⟩
  · simp [operandAhead_cons] at h
  · simp [hnew, debtBehind_cons, debt_append hb, debt_append hb']
    omega

theorem pays_doubledConnective : Pays 2 doubledConnective := by
  intro s o ho t ht
  obtain ⟨c, d, b, hb, hnew, rfl⟩ := doubledConnective_eq_some_iff.1 ho
  have hdebt := ht.debt_le
  refine ⟨fun h => ?_, ?_⟩
  · simp [operandAhead_cons] at h
  · simp [hnew, debtBehind_cons, debt_append hb]
    omega

theorem pays_trailingConnective : Pays 2 trailingConnective := by
  intro s o ho t ht
  obtain ⟨rfl, c, b, b', hb, hb', rfl⟩ := trailingConnective_eq_some_iff.1 ho
  have hbehind : debtBehind t = 0 := Nat.le_zero.1 ht.behind
  refine ⟨fun h => ?_, ?_⟩
  · simp [operandAhead_append hb, operandAhead_cons] at h
  · simp [hbehind, debtBehind_append hb, debtBehind_cons]

theorem pays_closeBeforeCondition : Pays 2 closeBeforeCondition := by
  intro s o ho t ht
  obtain ⟨hnew, hcond, b, hb, rfl⟩ := closeBeforeCondition_eq_some_iff.1 ho
  have hdebt := ht.debt_le
  have hahead : debtBehind o.rest = debt o.rest + 4 := by
    obtain ⟨x, r, hx, hplain⟩ := hcond.exists_plain
    simp [hx, debtBehind_cons (isBlank_of_isPlain hplain), hplain]
  refine ⟨fun h => ?_, ?_⟩
  · simp [operandAhead_cons] at h
  · simp [hnew, debtBehind_cons, debtBehind_cons_blank, debtBehind_append hb, hahead,
      debt_cons_blank]
    omega

theorem pays_looseConnective : Pays 0 looseConnective := by
  intro s o ho t ht
  obtain ⟨-, c, b, b', hb, hb', hnew, rfl⟩ := looseConnective_eq_some_iff.1 ho
  have hdebt := ht.debt_le
  refine ⟨fun h => ?_, ?_⟩
  · simp [operandAhead_append hb, operandAhead_cons] at h
  · simp [hnew, debtBehind_append hb, debtBehind_cons, debtBehind_cons_blank, debt_append hb',
      debt_cons_blank]
    omega

theorem pays_blankRun : Pays 0 blankRun := by
  intro s o ho t ht
  obtain ⟨hnew, -, x, b, hx, hb, rfl⟩ := blankRun_eq_some_iff.1 ho
  refine ⟨fun h => ?_, ?_⟩
  · rw [operandAhead_cons_blank hx, operandAhead_append hb] at h
    simpa [hnew, operandAhead_cons_blank] using ht.ahead h
  · simpa [hnew, debtBehind_cons_blank, hx, debtBehind_append hb] using ht.behind

/-! ## A pass -/

/-- The first seven rules, in order. -/
def clean (s : List Char) : List Char :=
  s |> replaceAll emptyGroup
    |> replaceAll connectiveBeforeClose
    |> replaceAll connectiveAfterOpen
    |> replaceAll doubledConnective
    |> dropLeadingConnective
    |> replaceAll trailingConnective
    |> replaceAll closeBeforeCondition

/-- The two rules for spacing, and the trimming of the ends. -/
def space (s : List Char) : List Char :=
  s |> replaceAll looseConnective |> replaceAll blankRun |> trim

theorem rulePass_eq (s : List Char) : rulePass s = space (clean s) := rfl

/-- None of the first seven rules finds anything in the text. -/
structure Quiet (s : List Char) : Prop where
  emptyGroup : Absent emptyGroup s
  connectiveBeforeClose : Absent connectiveBeforeClose s
  connectiveAfterOpen : Absent connectiveAfterOpen s
  doubledConnective : Absent doubledConnective s
  leadingConnective : connectiveAhead? s = none
  trailingConnective : Absent trailingConnective s
  closeBeforeCondition : Absent closeBeforeCondition s

namespace Quiet

variable {s b : List Char} (h : Quiet s) (hb : Blanks b)

include h hb

theorem ne_emptyGroup (u v : List Char) : s ≠ u ++ '(' :: (b ++ ')' :: v) :=
  h.emptyGroup.ne_append (o := ⟨[], v⟩) (emptyGroup_eq_some_iff.2 ⟨rfl, b, hb, rfl⟩) (by simp) u

theorem ne_connectiveBeforeClose (u : List Char) (c : Connective) (v : List Char) :
    s ≠ u ++ c.mark :: c.mark :: (b ++ ')' :: v) :=
  h.connectiveBeforeClose.ne_append (o := ⟨[')'], v⟩)
    (connectiveBeforeClose_eq_some_iff.2 ⟨rfl, c, [], b, blanks_nil, hb, rfl⟩) (by simp) u

theorem ne_connectiveAfterOpen (u : List Char) (c : Connective) (v : List Char) :
    s ≠ u ++ '(' :: (b ++ c.mark :: c.mark :: v) := by
  obtain ⟨b', hb', hv⟩ := exists_blanks_skipBlanks v
  refine h.connectiveAfterOpen.ne_append (o := ⟨['('], skipBlanks v⟩)
    (connectiveAfterOpen_eq_some_iff.2 ⟨rfl, solid_skipBlanks v, c, b, b', hb, hb', ?_⟩) (by simp) u
  rw [← hv]

theorem ne_doubledConnective (u : List Char) (c d : Connective) (v : List Char) :
    s ≠ u ++ c.mark :: c.mark :: (b ++ d.mark :: d.mark :: v) :=
  h.doubledConnective.ne_append (o := ⟨[d.mark, d.mark], v⟩)
    (doubledConnective_eq_some_iff.2 ⟨c, d, b, hb, rfl, rfl⟩) (by simp) u

theorem ne_leadingConnective (c : Connective) (v : List Char) :
    s ≠ b ++ c.mark :: c.mark :: v := by
  rintro rfl
  have hlead := h.leadingConnective
  rw [connectiveAhead?_append hb] at hlead
  cases hlead

theorem ne_trailingConnective (u : List Char) (c : Connective) :
    s ≠ u ++ c.mark :: c.mark :: b :=
  h.trailingConnective.ne_append
    (trailingConnective_eq_some_iff.2 ⟨rfl, c, [], b, blanks_nil, hb, rfl⟩) (by simp) u

theorem ne_closeBeforeCondition (u : List Char) {v : List Char} (hv : StartsCondition v) :
    s ≠ u ++ ')' :: (b ++ v) :=
  h.closeBeforeCondition.ne_append (o := ⟨_, v⟩)
    (closeBeforeCondition_eq_some_iff.2 ⟨rfl, hv, b, hb, rfl⟩) (by simp) u

end Quiet

/-- The rule leaves a text as it is because it finds nothing there, or lowers the debt. -/
def Settles (f : List Char → List Char) (quiet : List Char → Prop) : Prop :=
  ∀ s, quiet s ∧ f s = s ∨ debt (f s) + 2 ≤ debt s

theorem Settles.comp {f g : List Char → List Char} {p q : List Char → Prop} (hg : Settles g q)
    (hf : Settles f p) : Settles (fun s => g (f s)) (fun s => p s ∧ q s) := by
  intro s
  show (p s ∧ q s) ∧ g (f s) = s ∨ debt (g (f s)) + 2 ≤ debt s
  rcases hf s with ⟨hp, hfs⟩ | hlt
  · rw [hfs]
    rcases hg s with ⟨hq, hgs⟩ | hlt
    · exact .inl ⟨⟨hp, hq⟩, hgs⟩
    · exact .inr hlt
  · rcases hg (f s) with ⟨-, hgs⟩ | hlt'
    · rw [hgs]
      exact .inr hlt
    · exact .inr (by omega)

theorem Pays.settles {p : Pattern} (hp : Covers p) (h : Pays 2 p) :
    Settles (replaceAll p) (Absent p) := by
  intro s
  rcases (h.cheaper_replaceAll hp.consumes s).2 with habsent | hlt
  · exact .inl ⟨habsent, replaceAll_eq_self habsent⟩
  · exact .inr hlt.debt_le

theorem settles_dropLeadingConnective :
    Settles dropLeadingConnective (fun s => connectiveAhead? s = none) := by
  intro s
  rcases dropLeadingConnective_cases s with h | ⟨c, b, b', r, hb, hb', -, rfl, hr⟩
  · exact .inl h
  · refine .inr ?_
    rw [hr, debt_append hb, debt_marks, debt_append hb']
    omega

/-- The first seven rules leave a text as it is because they find nothing, or lower the debt. -/
theorem settles_clean : Settles clean Quiet := by
  intro s
  have h := pays_emptyGroup.settles covers_emptyGroup
  replace h := (pays_connectiveBeforeClose.settles covers_connectiveBeforeClose).comp h
  replace h := (pays_connectiveAfterOpen.settles covers_connectiveAfterOpen).comp h
  replace h := (pays_doubledConnective.settles covers_doubledConnective).comp h
  replace h := settles_dropLeadingConnective.comp h
  replace h := (pays_trailingConnective.settles covers_trailingConnective).comp h
  replace h := (pays_closeBeforeCondition.settles covers_closeBeforeCondition).comp h
  rcases h s with ⟨⟨⟨⟨⟨⟨⟨h₁, h₂⟩, h₃⟩, h₄⟩, h₅⟩, h₆⟩, h₇⟩, hself⟩ | hlt
  · exact .inl ⟨⟨h₁, h₂, h₃, h₄, h₅, h₆, h₇⟩, hself⟩
  · exact .inr hlt

/-- Spacing never raises the debt. -/
theorem debt_space_le (s : List Char) : debt (space s) ≤ debt s := by
  have hloose := (pays_looseConnective.cheaper_replaceAll covers_looseConnective.consumes s).1
  have hblank := (pays_blankRun.cheaper_replaceAll covers_blankRun.consumes
    (replaceAll looseConnective s)).1
  have := hloose.debt_le
  have := hblank.debt_le
  simp only [space, debt_trim]
  omega

/-- A pass finds nothing to clean up and only sets the spacing right, or it lowers the debt. -/
theorem quiet_or_debt_rulePass (s : List Char) :
    Quiet s ∧ rulePass s = space s ∨ debt (rulePass s) + 2 ≤ debt s := by
  have hspace := debt_space_le (clean s)
  rw [rulePass_eq]
  rcases settles_clean s with ⟨hquiet, hself⟩ | hlt
  · exact .inl ⟨hquiet, by rw [hself]⟩
  · exact .inr (by omega)

/-- A text that a pass does not change is quiet, and its spacing is right. -/
theorem quiet_of_rulePass_eq {s : List Char} (h : rulePass s = s) : Quiet s ∧ space s = s := by
  rcases quiet_or_debt_rulePass s with ⟨hquiet, hself⟩ | hlt
  · exact ⟨hquiet, hself ▸ h⟩
  · rw [h] at hlt
    omega

end RecordFilter.Normal
