import RecordFilter.Proofs.Normal.Bracket

/-!
# Repairing brackets

A text can be given matched brackets by leaving out some of its closing brackets and writing others
at its end. Each way of doing so leaves out at least as many as any prefix of the text closes
without having opened them. The walk of `balance` leaves out no more than some prefix asks for, and
the totals say how many are to be written then, so no other way gets by with less.

## Main statements

* `Mends.count_close_le`: what a repair has to leave out for a prefix of the text.
* `exists_mends_balanceFrom`: the walk is a repair, and it leaves out what some prefix asks for.
* `balance_minimal`: the repaired text has matched brackets, and no repair is smaller.
-/

namespace RecordFilter.Normal

/-- No prefix closes more brackets than it opens, and the totals agree. -/
structure Paired (s : List Char) : Prop where
  before : ∀ u, u <+: s → u.count ')' ≤ u.count '('
  total : s.count '(' = s.count ')'

/-- The second text is the first one without `n` of its closing brackets. -/
inductive Omits : Nat → List Char → List Char → Prop
  | nil : Omits 0 [] []
  | keep (x : Char) {n : Nat} {s t : List Char} (h : Omits n s t) : Omits n (x :: s) (x :: t)
  | drop {n : Nat} {s t : List Char} (h : Omits n s t) : Omits (n + 1) (')' :: s) t

/-- The second text is the first one without `omitted` of its closing brackets and with `added` more
of them at its end. -/
def Mends (omitted added : Nat) (s t : List Char) : Prop :=
  ∃ u, Omits omitted s u ∧ t = u ++ List.replicate added ')'

variable {s t : List Char} {n omitted added : Nat}

theorem paired_iff_balanced : Paired s ↔ Balanced s :=
  ⟨fun h => balanced_iff.2 ⟨h.before, h.total⟩,
    fun h => ⟨(balanced_iff.1 h).1, (balanced_iff.1 h).2⟩⟩

/-! ## Leaving out closing brackets -/

namespace Omits

theorem count_close (h : Omits n s t) : t.count ')' + n = s.count ')' := by
  induction h with
  | nil => rfl
  | keep x h ih =>
    rw [List.count_cons, List.count_cons]
    omega
  | drop h ih =>
    rw [List.count_cons_self]
    omega

theorem count_open (h : Omits n s t) : t.count '(' = s.count '(' := by
  induction h with
  | nil => rfl
  | keep x h ih => rw [List.count_cons, List.count_cons, ih]
  | drop h ih => simpa using ih

/-- Of a prefix of the text, a prefix of the other text is left. -/
theorem exists_prefix (h : Omits n s t) {u : List Char} (hu : u <+: s) :
    ∃ m v, m ≤ n ∧ v <+: t ∧ Omits m u v := by
  induction h generalizing u with
  | nil =>
    obtain rfl := List.prefix_nil.1 hu
    exact ⟨0, [], Nat.le_refl 0, List.prefix_rfl, nil⟩
  | keep x h ih =>
    rcases List.prefix_cons_iff.1 hu with rfl | ⟨w, rfl, hw⟩
    · exact ⟨0, [], Nat.zero_le _, List.nil_prefix, nil⟩
    · obtain ⟨m, v, hm, hv, huv⟩ := ih hw
      exact ⟨m, x :: v, hm, List.cons_prefix_cons.2 ⟨rfl, hv⟩, keep x huv⟩
  | drop h ih =>
    rcases List.prefix_cons_iff.1 hu with rfl | ⟨w, rfl, hw⟩
    · exact ⟨0, [], Nat.zero_le _, List.nil_prefix, nil⟩
    · obtain ⟨m, v, hm, hv, huv⟩ := ih hw
      exact ⟨m + 1, v, by omega, hv, drop huv⟩

/-- What a prefix closes without having opened it is left out of the text. -/
theorem count_close_le (h : Omits n s t) (hbefore : ∀ v, v <+: t → v.count ')' ≤ v.count '(')
    {u : List Char} (hu : u <+: s) : u.count ')' ≤ u.count '(' + n := by
  obtain ⟨m, v, hm, hv, huv⟩ := h.exists_prefix hu
  have hclose := huv.count_close
  have hopen := huv.count_open
  have hcount := hbefore v hv
  omega

end Omits

/-! ## Ways to repair a text -/

theorem Mends.keep (h : Mends omitted added s t) (x : Char) :
    Mends omitted added (x :: s) (x :: t) := by
  obtain ⟨u, homits, rfl⟩ := h
  exact ⟨x :: u, .keep x homits, rfl⟩

theorem Mends.drop (h : Mends omitted added s t) : Mends (omitted + 1) added (')' :: s) t := by
  obtain ⟨u, homits, rfl⟩ := h
  exact ⟨u, .drop homits, rfl⟩

/-- How much a repair writes follows from how much it leaves out. -/
theorem Mends.count_eq (h : Mends omitted added s t) (ht : Paired t) :
    s.count '(' + omitted = s.count ')' + added := by
  obtain ⟨u, homits, rfl⟩ := h
  have htotal := ht.total
  have hclose := homits.count_close
  have hopen := homits.count_open
  have hnone : (List.replicate added ')').count '(' = 0 := by simp [List.count_replicate]
  rw [List.count_append, List.count_append, List.count_replicate_self, hnone] at htotal
  omega

theorem Mends.count_close_le (h : Mends omitted added s t) (ht : Paired t) {u : List Char}
    (hu : u <+: s) : u.count ')' ≤ u.count '(' + omitted := by
  obtain ⟨v, homits, rfl⟩ := h
  refine homits.count_close_le (fun w hw => ?_) hu
  exact ht.before w (hw.trans (List.prefix_append v _))

/-! ## The walk -/

/-- Inside `depth` open brackets, some prefix closes `n` brackets more than are open. That nothing
is closed too much needs no prefix. -/
def Exceeds (depth n : Nat) (s : List Char) : Prop :=
  n = 0 ∨ ∃ u, u <+: s ∧ u.count ')' = depth + u.count '(' + n

theorem Exceeds.cons {depth depth' : Nat} {x : Char} (h : Exceeds depth' n s)
    (hx : depth' + [x].count ')' = depth + [x].count '(') : Exceeds depth n (x :: s) := by
  rcases h with rfl | ⟨u, hu, hcount⟩
  · exact .inl rfl
  · refine .inr ⟨x :: u, List.cons_prefix_cons.2 ⟨rfl, hu⟩, ?_⟩
    rw [← List.singleton_append, List.count_append, List.count_append]
    omega

theorem Exceeds.cons_close (h : Exceeds 0 n s) : Exceeds 0 (n + 1) (')' :: s) := by
  refine .inr ?_
  rcases h with rfl | ⟨u, hu, hcount⟩
  · exact ⟨[')'], List.cons_prefix_cons.2 ⟨rfl, List.nil_prefix⟩, by simp⟩
  · refine ⟨')' :: u, List.cons_prefix_cons.2 ⟨rfl, hu⟩, ?_⟩
    rw [List.count_cons_self, List.count_cons_of_ne (by decide)]
    omega

/-- The walk is a repair that leaves out no more closing brackets than some prefix closes too much.
-/
theorem exists_mends_balanceFrom (depth : Nat) (s : List Char) :
    ∃ omitted added, Mends omitted added s (balanceFrom depth s) ∧ Exceeds depth omitted s := by
  induction s generalizing depth with
  | nil => exact ⟨0, depth, ⟨[], .nil, rfl⟩, .inl rfl⟩
  | cons x s ih =>
    by_cases hclose : x = ')'
    · subst hclose
      cases depth with
      | zero =>
        obtain ⟨omitted, added, hmends, hexceeds⟩ := ih 0
        exact ⟨omitted + 1, added, hmends.drop, hexceeds.cons_close⟩
      | succ depth =>
        obtain ⟨omitted, added, hmends, hexceeds⟩ := ih depth
        exact ⟨omitted, added, hmends.keep ')', hexceeds.cons (by simp)⟩
    · by_cases hopen : x = '('
      · subst hopen
        obtain ⟨omitted, added, hmends, hexceeds⟩ := ih (depth + 1)
        exact ⟨omitted, added, hmends.keep '(', hexceeds.cons (by simp)⟩
      · obtain ⟨omitted, added, hmends, hexceeds⟩ := ih depth
        refine ⟨omitted, added, ?_, hexceeds.cons (by simp [hclose, hopen])⟩
        simpa [balanceFrom, hclose, hopen] using hmends.keep x

/-- The repaired text has matched brackets, it is the text itself exactly if that has matched
brackets, and it is made by leaving out closing brackets and writing others at the end. No other way
to matched brackets leaves out fewer, and none leaves out and writes fewer altogether. -/
theorem balance_minimal (s : List Char) :
    Paired (balance s) ∧ (balance s = s ↔ Paired s) ∧
      ∃ omitted added, Mends omitted added s (balance s) ∧
        ∀ omitted' added' t, Mends omitted' added' s t → Paired t →
          omitted ≤ omitted' ∧ omitted + added ≤ omitted' + added' := by
  have hpaired : Paired (balance s) := paired_iff_balanced.2 (balanced_balance s)
  obtain ⟨omitted, added, hmends, hexceeds⟩ : ∃ omitted added,
      Mends omitted added s (balance s) ∧ Exceeds 0 omitted s := exists_mends_balanceFrom 0 s
  refine ⟨hpaired, ⟨fun h => h ▸ hpaired, fun h => balance_eq_self (paired_iff_balanced.1 h)⟩,
    omitted, added, hmends, fun omitted' added' t hother ht => ?_⟩
  have hle : omitted ≤ omitted' := by
    rcases hexceeds with rfl | ⟨v, hv, hcount⟩
    · exact Nat.zero_le _
    · have hasked := hother.count_close_le ht hv
      omega
  have htotal := hmends.count_eq hpaired
  have htotal' := hother.count_eq ht
  omega

/-- Leaving out both closing brackets of this text is a repair, and a larger one. -/
theorem balance_minimal_unopened : balance "())(".toList = "()()".toList ∧
    Mends 2 2 "())(".toList "(())".toList ∧ Paired "(())".toList ∧
    ∃ omitted added, Mends omitted added "())(".toList "()()".toList ∧ omitted ≤ 2 ∧
      omitted + added ≤ 4 := by
  have hbalance : balance "())(".toList = "()()".toList := by decide +kernel
  have hmends : Mends 2 2 "())(".toList "(())".toList :=
    ⟨"((".toList, .keep _ (.drop (.drop (.keep _ .nil))), by decide +kernel⟩
  have hpaired : Paired "(())".toList := paired_iff_balanced.2 (by decide +kernel)
  obtain ⟨-, -, omitted, added, hself, hmin⟩ := balance_minimal "())(".toList
  rw [hbalance] at hself
  exact ⟨hbalance, hmends, hpaired, omitted, added, hself, hmin 2 2 _ hmends hpaired⟩

end RecordFilter.Normal
