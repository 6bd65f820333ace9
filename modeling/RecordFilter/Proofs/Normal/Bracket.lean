import RecordFilter.Normal.Bracket
import RecordFilter.Proofs.Normal.Debt
import RecordFilter.Proofs.Normal.Invariant

/-!
# Brackets through a pass

A balanced text is one in which no prefix closes more brackets than it opens and the totals agree.
Repairing a balanced text does nothing, and the number of open brackets overlooks all that the rules
delete and write, so a pass keeps a balanced text balanced.

## Main statements

* `balanced_iff`: the reading by counts.
* `balance_eq_self`: balanced texts need no repair.
* `depthAfter?_rulePass`: a pass keeps the number of open brackets.
* `debt_le_of_balanced`: what a balanced text can owe.
-/

namespace RecordFilter.Normal

open Text

theorem depthAfter?_append (d : Nat) (u v : List Char) :
    depthAfter? d (u ++ v) = (depthAfter? d u).bind fun e => depthAfter? e v := by
  induction u generalizing d with
  | nil => rfl
  | cons x u ih =>
    by_cases hclose : x = ')'
    · cases d with
      | zero => simp [depthAfter?, hclose]
      | succ d => simpa [depthAfter?, hclose] using ih d
    · by_cases hopen : x = '('
      · simpa [depthAfter?, hopen] using ih (d + 1)
      · simpa [depthAfter?, hclose, hopen] using ih d

/-! ## Counting brackets -/

/-- The walk comes through when every prefix has enough open brackets, and the totals say where it
ends. -/
theorem depthAfter?_eq_some_iff {d e : Nat} {s : List Char} :
    depthAfter? d s = some e ↔
      (∀ u, u <+: s → u.count ')' ≤ d + u.count '(') ∧ d + s.count '(' = e + s.count ')' := by
  induction s generalizing d with
  | nil => simp [depthAfter?, eq_comm]
  | cons x s ih =>
    simp only [List.prefix_cons_iff]
    by_cases hclose : x = ')'
    · subst hclose
      cases d with
      | zero =>
        simp only [depthAfter?, if_true, reduceCtorEq, false_iff]
        rintro ⟨hbefore, -⟩
        have := hbefore [')'] (.inr ⟨[], rfl, List.nil_prefix⟩)
        simp at this
      | succ d =>
        simp only [depthAfter?, if_true, ih]
        constructor
        · rintro ⟨hbefore, htotal⟩
          refine ⟨?_, by simp; omega⟩
          rintro u (rfl | ⟨u, rfl, hu⟩)
          · simp
          · have := hbefore u hu
            simp
            omega
        · rintro ⟨hbefore, htotal⟩
          refine ⟨fun u hu => ?_, by simp at htotal; omega⟩
          have := hbefore (')' :: u) (.inr ⟨u, rfl, hu⟩)
          simp at this
          omega
    · have hcount : ∀ u : List Char, (x :: u).count ')' = u.count ')' :=
        fun u => List.count_cons_of_ne hclose
      have hnext : depthAfter? d (x :: s) = depthAfter? (d + [x].count '(') s := by
        by_cases hopen : x = '(' <;> simp [depthAfter?, hclose, hopen]
      have hopens : ∀ u : List Char, (x :: u).count '(' = [x].count '(' + u.count '(' :=
        fun u => by rw [← List.singleton_append, List.count_append]
      rw [hnext, ih]
      constructor
      · rintro ⟨hbefore, htotal⟩
        refine ⟨?_, by rw [hcount, hopens]; omega⟩
        rintro u (rfl | ⟨u, rfl, hu⟩)
        · simp
        · have := hbefore u hu
          rw [hcount, hopens]
          omega
      · rintro ⟨hbefore, htotal⟩
        rw [hcount, hopens] at htotal
        refine ⟨fun u hu => ?_, by omega⟩
        have := hbefore (x :: u) (.inr ⟨u, rfl, hu⟩)
        rw [hcount, hopens] at this
        omega

/-- No prefix closes more brackets than it opens, and the totals agree. -/
theorem balanced_iff {s : List Char} :
    Balanced s ↔ (∀ u, u <+: s → u.count ')' ≤ u.count '(') ∧ s.count '(' = s.count ')' := by
  simp [Balanced, depthAfter?_eq_some_iff]

/-- A balanced text owes at most twice its length. -/
theorem debt_le_of_balanced {s : List Char} (h : Balanced s) : debt s ≤ 2 * s.length := by
  have hcount := (balanced_iff.1 h).2
  have hdebt := debt_add_count_open_le s
  omega

/-! ## Repairing a balanced text -/

theorem balanceFrom_eq_self {d : Nat} {s : List Char} (h : depthAfter? d s = some 0) :
    balanceFrom d s = s := by
  induction s generalizing d with
  | nil =>
    cases h
    rfl
  | cons x s ih =>
    by_cases hclose : x = ')'
    · subst hclose
      cases d with
      | zero => cases h
      | succ d => simpa [balanceFrom] using ih h
    · by_cases hopen : x = '('
      · subst hopen
        simpa [balanceFrom] using ih h
      · simp only [depthAfter?, hclose, hopen, if_false] at h
        simpa [balanceFrom, hclose, hopen] using ih h

/-- A balanced text needs no repair. -/
theorem balance_eq_self {s : List Char} (h : Balanced s) : balance s = s := balanceFrom_eq_self h

/-! ## A pass keeps the depth -/

@[simp] theorem depthAfter?_nil (d : Nat) : depthAfter? d [] = some d := rfl

@[simp] theorem depthAfter?_open (d : Nat) (s : List Char) :
    depthAfter? d ('(' :: s) = depthAfter? (d + 1) s := rfl

@[simp] theorem depthAfter?_close (d : Nat) (s : List Char) :
    depthAfter? (d + 1) (')' :: s) = depthAfter? d s := rfl

theorem depthAfter?_cons_blank {x : Char} (hx : isBlank x = true) (d : Nat) (s : List Char) :
    depthAfter? d (x :: s) = depthAfter? d s := by
  have hopen : x ≠ '(' := by rintro rfl; simp at hx
  have hclose : x ≠ ')' := by rintro rfl; simp at hx
  simp [depthAfter?, hopen, hclose]

@[simp] theorem depthAfter?_mark (d : Nat) (c : Connective) (s : List Char) :
    depthAfter? d (c.mark :: s) = depthAfter? d s := by
  simp [depthAfter?]

/-- The number of open brackets is counted past blanks, marks and empty groups. -/
theorem overlooks_depthAfter : Overlooks fun s d => depthAfter? d s where
  cons x s t h := by
    funext d
    rw [← List.singleton_append, depthAfter?_append, ← List.singleton_append (l := t),
      depthAfter?_append]
    exact congrArg _ h
  blank s hx := funext fun d => depthAfter?_cons_blank hx d s
  mark c s := funext fun d => depthAfter?_mark d c s
  pair s := rfl

/-- A pass keeps the number of open brackets. -/
theorem depthAfter?_rulePass (d : Nat) (s : List Char) :
    depthAfter? d (rulePass s) = depthAfter? d s :=
  congrFun (overlooks_depthAfter.apply_rulePass s) d

theorem Balanced.rulePass {s : List Char} (h : Balanced s) : Balanced (rulePass s) :=
  (depthAfter?_rulePass 0 s).trans h

end RecordFilter.Normal
