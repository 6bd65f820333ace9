import RecordFilter.Proofs.Row.Collector

/-!
# What is kept of a row

The passes bring the text of a row to the text of what is collected from it, which holds the same
operands in the same order.

## Main statements

* `operands_tidy`: a pass loses no operand.
* `normalizeChars_rowText`: the text of a row is normalized to the text of what is kept of it.
-/

namespace RecordFilter.Normal

open Collector

/-! ## Operands -/

/-- The operands of a row in order. -/
def operands (ps : List Piece) : List (List Char) :=
  ps.filterMap fun
    | .operand w => some w
    | _ => none

@[simp] theorem operands_append (ps qs : List Piece) :
    operands (ps ++ qs) = operands ps ++ operands qs := List.filterMap_append

theorem operands_sweep {r : RowRule}
    (hr : ∀ p q new, r p q = some new → operands new = operands (p :: q.toList))
    (ps : List Piece) : operands (sweep r ps) = operands ps := by
  induction ps using sweep_induction r with
  | nil => simp
  | keep p ps hnone ih =>
    rw [sweep_cons_none hnone, ← List.singleton_append, operands_append, ih, ← operands_append]
    rfl
  | write p ps new hnew ih =>
    rw [sweep_cons_some hnew, operands_append, ih, hr p _ new hnew, ← operands_append,
      List.cons_append, toList_head?_append_tail]

theorem operands_of_rule {r : RowRule} (hr : r ∈ [emptyPair, jointBeforeClosing, jointAfterOpening,
    doubledJoint, trailingJoint, closingBeforeOperand]) (p : Piece) (q : Option Piece)
    (new : List Piece) (h : r p q = some new) : operands new = operands (p :: q.toList) := by
  simp only [List.mem_cons, List.not_mem_nil, or_false] at hr
  rcases hr with rfl | rfl | rfl | rfl | rfl | rfl <;> cases p <;>
    rcases q with _ | (_ | _ | _ | _) <;> cases h <;> rfl

theorem operands_dropLeadingJoint (ps : List Piece) :
    operands (dropLeadingJoint ps) = operands ps := by
  rcases ps with _ | ⟨_ | _ | _ | _, ps⟩ <;> rfl

/-- A pass loses no operand and changes none. -/
theorem operands_tidy (ps : List Piece) : operands (tidy ps) = operands ps := by
  simp only [tidy, tidyJoints]
  rw [operands_sweep (operands_of_rule (by simp)), operands_sweep (operands_of_rule (by simp)),
    operands_dropLeadingJoint, operands_sweep (operands_of_rule (by simp)),
    operands_sweep (operands_of_rule (by simp)), operands_sweep (operands_of_rule (by simp)),
    operands_sweep (operands_of_rule (by simp))]

theorem operands_balanceRow (d : Nat) (ps : List Piece) :
    operands (balanceRow d ps) = operands ps := by
  fun_induction balanceRow d ps with
  | case1 d =>
    induction d with
    | zero => rfl
    | succ d ih => exact ih
  | case2 ps ih | case3 d ps ih | case4 d ps ih | case6 d c ps ih => exact ih
  | case5 d w ps ih => exact congrArg (w :: ·) ih

/-- The literals of a row are those of its operands. -/
theorem literals_rowText {ps : List Piece} (h : ∀ p ∈ ps, p.Proper) :
    literals (rowText ps) = (operands ps).flatMap literals := by
  rw [literals_eq, segments_rowText h]
  clear h
  induction ps with
  | nil => rfl
  | cons p ps ih =>
    rw [List.flatMap_cons, literalsOf_append, ih]
    cases p with
    | operand w => rfl
    | joint c => cases c <;> rfl
    | opening => rfl
    | closing => rfl

/-! ## Normalizing a row -/

/-- From the row is collected in the end what is kept of the other, and it can be tidied without a
change to that. -/
structure CollectsKept (ps qs : List Piece) : Prop where
  parted : Parted qs
  closes : start.Closes qs
  outer : (start.run qs).outer = []
  finish : (start.run qs).finish = kept ps

theorem collectsKept_tidyJoints {ps qs : List Piece} (hcloses : start.Closes qs)
    (houter : (start.run qs).outer = []) (hfinish : (start.run qs).finish = kept ps) :
    CollectsKept ps (tidyJoints qs) := by
  obtain ⟨hcloses', houter', hfinish'⟩ := collectedLike_tidyJoints qs hcloses
  exact ⟨parted_sweep_closingBeforeOperand _, hcloses', houter'.trans houter,
    hfinish'.trans hfinish⟩

theorem CollectsKept.tidy {ps qs : List Piece} (h : CollectsKept ps qs) :
    CollectsKept ps (tidy qs) := by
  obtain ⟨hcloses, houter, hinner⟩ := run_sweep_emptyPair h.parted h.closes (.inl rfl)
  refine collectsKept_tidyJoints hcloses (houter.trans h.outer) ?_
  rw [← h.finish, Collector.finish, Collector.finish, ← houter, ← hinner]

theorem collectsKept_tidy_balanceRow (ps : List Piece) :
    CollectsKept ps (tidy (balanceRow 0 ps)) := by
  obtain ⟨hcloses, houter, hfinish⟩ := run_sweep_balanceRow start ps
  exact collectsKept_tidyJoints hcloses houter hfinish

/-- The passes bring the text of a row to the text of what is kept of it. -/
theorem settled_rowText {ps : List Piece} (h : ∀ p ∈ ps, p.Proper) :
    (settled (rowText ps)).text = shielded 0 (kept ps) ∧ (∀ p ∈ kept ps, p.Proper) ∧
      operands (kept ps) = operands ps := by
  have hprepared : prepared (rowText ps) = shielded 0 (balanceRow 0 ps) := by
    rw [prepared, shield_rowText h, balance, balanceFrom_shielded h]
  have htidy : ∀ {qs}, qs = balanceRow 0 ps ∨ CollectsKept ps qs → CollectsKept ps (tidy qs) := by
    rintro qs (rfl | hqs)
    · exact collectsKept_tidy_balanceRow ps
    · exact hqs.tidy
  obtain ⟨qs, hspells, hoperands, hqs⟩ : ∃ qs, Spells false 0 qs (settled (rowText ps)).text ∧
      operands qs = operands ps ∧ (qs = balanceRow 0 ps ∨ CollectsKept ps qs) := by
    refine settled_induction (motive := fun s => ∃ qs, Spells false 0 qs s ∧
      operands qs = operands ps ∧ (qs = balanceRow 0 ps ∨ CollectsKept ps qs)) (rowText ps) ?_ ?_
    · refine ⟨balanceRow 0 ps, ?_, operands_balanceRow 0 ps, .inl rfl⟩
      rw [hprepared]
      exact (spells_shielded (proper_balanceRow h 0) 0).1
    · rintro s ⟨qs, hspells, hoperands, hqs⟩
      exact ⟨tidy qs, hspells.rulePass, (operands_tidy qs).trans hoperands, .inr (htidy hqs)⟩
  -- at rest one more pass changes nothing, and what it leaves has been through a pass
  have hrest := rulePass_settled (rowText ps)
  have hpass := hspells.rulePass
  rw [hrest] at hpass
  have hcollects := htidy hqs
  have hquiet := quiet_settled (rowText ps)
  have hkept : kept ps = tidy qs := by
    rw [← hcollects.finish]
    exact finish_run_of_rests (hpass.rests hquiet) (hpass.head?_ne_joint hquiet)
      hcollects.closes hcollects.outer
  rw [hkept]
  exact ⟨hpass.eq_shielded hrest, hpass.proper, (operands_tidy qs).trans hoperands⟩

/-- The text of a row is normalized to the text of what is kept of it. -/
theorem normalizeChars_rowText {ps : List Piece} (h : ∀ p ∈ ps, p.Proper) :
    normalizeChars (rowText ps) = rowText (kept ps) := by
  obtain ⟨hsettled, hproper, hoperands⟩ := settled_rowText h
  have hliterals : literals (rowText ps) = literals (rowText (kept ps)) := by
    rw [literals_rowText h, literals_rowText hproper, hoperands]
  rw [normalizeChars, shield_rowText h, hsettled, hliterals, restore_shielded hproper]

end RecordFilter.Normal
