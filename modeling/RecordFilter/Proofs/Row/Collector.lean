import RecordFilter.Proofs.Row.Pass

/-!
# Collecting what is kept of a row

Which pieces of a row survive its normalization can be said without passes. A *collector* goes over
the row once, from left to right, after the brackets with nothing at all between them have been
taken out. It keeps every operand, and every bracket pair that holds an operand. The connective
written last before an operand or such a pair is kept, unless nothing stands before it; right behind
a closing bracket, an operand is joined by a conjunction, whatever connective was there.

## Main statements

* `collectedLike_tidyJoints`, `run_sweep_emptyPair`: a pass does not change what is collected.
* `Collector.finish_run_of_rests`: a row at rest is collected as it is.
* `run_sweep_balanceRow`: nor does the repair of brackets.
-/

namespace RecordFilter.Normal

/-! ## The collector -/

/-- What has been collected since the start of the row or the last open bracket, and the connective
that the next piece is to be joined with. -/
inductive Level
  | bare
  | holding (done : List Piece) (joint : Option Connective)

namespace Level

def done : Level → List Piece
  | bare => []
  | holding done _ => done

/-- The connective, as pieces. -/
def joints : Option Connective → List Piece
  | none => []
  | some c => [.joint c]

def pieces : Level → List Piece
  | bare => []
  | holding done joint => done ++ joints joint

/-- A connective replaces the one before it; with nothing before it, it connects nothing. -/
def connect (l : Level) (c : Connective) : Level :=
  match l with
  | bare => bare
  | holding done _ => holding done (some c)

def attach (l : Level) (new : List Piece) : Level := holding (l.pieces ++ new) none

/-- Close the bracket that was opened at this level: one that holds nothing leaves no trace. -/
def enclose (l inner : Level) : Level :=
  match inner with
  | bare => l
  | holding done _ => l.attach (.opening :: done ++ [.closing])

end Level

/-- The levels around the open brackets, the innermost first, the level inside the last of them, and
whether a closing bracket was read last. -/
structure Collector where
  outer : List Level
  inner : Level
  closed : Bool

namespace Collector

def start : Collector := ⟨[], .bare, false⟩

def step (σ : Collector) : Piece → Collector
  | .operand w =>
    ⟨σ.outer, (if σ.closed then σ.inner.connect .and else σ.inner).attach [.operand w], false⟩
  | .joint c => ⟨σ.outer, σ.inner.connect c, false⟩
  | .opening => ⟨σ.inner :: σ.outer, .bare, false⟩
  | .closing =>
    match σ.outer with
    | [] => σ
    | l :: outer => ⟨outer, l.enclose σ.inner, true⟩

def run (σ : Collector) (ps : List Piece) : Collector := ps.foldl step σ

/-- What has been collected once the brackets that are still open are closed. -/
def finish (σ : Collector) : List Piece :=
  (σ.outer.foldl (fun inner l => l.enclose inner) σ.inner).done

end Collector

/-- The pieces that are left of a row. -/
def kept (ps : List Piece) : List Piece := (Collector.start.run (sweep emptyPair ps)).finish

namespace Collector

variable {σ τ : Collector} {p : Piece} {ps qs : List Piece}

@[simp] theorem run_nil (σ : Collector) : σ.run [] = σ := rfl

@[simp] theorem run_cons (σ : Collector) (p : Piece) (ps : List Piece) :
    σ.run (p :: ps) = (σ.step p).run ps := rfl

@[simp] theorem run_append (σ : Collector) (ps qs : List Piece) :
    σ.run (ps ++ qs) = (σ.run ps).run qs := List.foldl_append

/-- Every closing bracket of the row closes one that is open. -/
def Closes : Collector → List Piece → Prop
  | _, [] => True
  | σ, p :: ps => (p = .closing → σ.outer ≠ []) ∧ (σ.step p).Closes ps

theorem closes_append : σ.Closes (ps ++ qs) ↔ σ.Closes ps ∧ (σ.run ps).Closes qs := by
  induction ps generalizing σ with
  | nil => simp [Closes]
  | cons p ps ih => simp [Closes, ih, and_assoc]

/-! ## Rules that change nothing -/

/-- The pieces that the rule writes are collected like those it replaces. -/
def Neutral (r : RowRule) : Prop :=
  ∀ p q new, r p q = some new → ∀ σ : Collector, σ.Closes (p :: q.toList) →
    σ.Closes new ∧ σ.run new = σ.run (p :: q.toList)

end Collector

open Collector

theorem toList_head?_append_tail {α : Type} (l : List α) : l.head?.toList ++ l.tail = l := by
  cases l <;> rfl

/-- A rule of this kind does not change what is collected from a row. -/
theorem Collector.Neutral.run_sweep {r : RowRule} (hr : Neutral r) {σ : Collector} {ps : List Piece}
    (h : σ.Closes ps) : σ.Closes (sweep r ps) ∧ σ.run (sweep r ps) = σ.run ps := by
  induction ps using sweep_induction r generalizing σ with
  | nil => simp [h]
  | keep p ps hnone ih =>
    obtain ⟨hcloses, hrun⟩ := ih h.2
    rw [sweep_cons_none hnone]
    exact ⟨⟨h.1, hcloses⟩, hrun⟩
  | write p ps new hnew ih =>
    have hsplit : p :: ps = (p :: ps.head?.toList) ++ ps.tail := by
      rw [List.cons_append, toList_head?_append_tail]
    rw [hsplit, closes_append] at h
    obtain ⟨hcloses, hrun⟩ := hr p _ new hnew σ h.1
    rw [← hrun] at h
    obtain ⟨hcloses', hrun'⟩ := ih h.2
    rw [sweep_cons_some hnew]
    refine ⟨closes_append.2 ⟨hcloses, hcloses'⟩, ?_⟩
    rw [run_append, hrun', hsplit, run_append, hrun]

theorem neutral_jointBeforeClosing : Neutral jointBeforeClosing := by
  intro p q new h σ hσ
  unfold jointBeforeClosing at h
  split at h
  · cases h
    obtain ⟨outer, inner, closed⟩ := σ
    cases outer with
    | nil => exact absurd rfl (hσ.2.1 rfl)
    | cons l outer => exact ⟨by simp [Closes], by cases inner <;> rfl⟩
  · cases h

theorem neutral_jointAfterOpening : Neutral jointAfterOpening := by
  intro p q new h σ hσ
  unfold jointAfterOpening at h
  split at h
  · cases h
    exact ⟨by simp [Closes], rfl⟩
  · cases h

theorem neutral_doubledJoint : Neutral doubledJoint := by
  intro p q new h σ hσ
  unfold doubledJoint at h
  split at h
  · cases h
    obtain ⟨outer, inner, closed⟩ := σ
    exact ⟨by simp [Closes], by cases inner <;> rfl⟩
  · cases h

theorem neutral_closingBeforeOperand : Neutral closingBeforeOperand := by
  intro p q new h σ hσ
  unfold closingBeforeOperand at h
  split at h
  · cases h
    obtain ⟨outer, inner, closed⟩ := σ
    cases outer with
    | nil => exact absurd rfl (hσ.1 rfl)
    | cons l outer => exact ⟨by simp [Closes], rfl⟩
  · cases h

/-! ## Rules that change nothing in the end -/

/-- What has been collected in the end does not depend on a connective that was read last. -/
theorem finish_connect (outer : List Level) (l : Level) (c : Connective) (closed closed' : Bool) :
    finish ⟨outer, l.connect c, closed⟩ = finish ⟨outer, l, closed'⟩ := by
  cases outer <;> cases l <;> rfl

theorem run_sweep_trailingJoint {σ : Collector} {ps : List Piece} (h : σ.Closes ps) :
    σ.Closes (sweep trailingJoint ps) ∧
      (σ.run (sweep trailingJoint ps)).outer = (σ.run ps).outer ∧
      (σ.run (sweep trailingJoint ps)).finish = (σ.run ps).finish := by
  induction ps generalizing σ with
  | nil => simp [Closes]
  | cons p ps ih =>
    cases hnew : trailingJoint p ps.head? with
    | none =>
      obtain ⟨hcloses, hrun⟩ := ih h.2
      rw [sweep_cons_none hnew]
      exact ⟨⟨h.1, hcloses⟩, hrun⟩
    | some new =>
      rw [sweep_cons_some hnew]
      unfold trailingJoint at hnew
      split at hnew
      · next c hnil =>
        obtain rfl := List.head?_eq_none_iff.1 hnil
        cases hnew
        rw [List.tail_nil, sweep_nil]
        exact ⟨trivial, rfl, (finish_connect σ.outer σ.inner c false σ.closed).symm⟩
      · cases hnew

/-- Nothing of the second row is collected differently from the first. -/
def CollectedLike (ps qs : List Piece) : Prop :=
  start.Closes qs → start.Closes ps ∧ (start.run ps).outer = (start.run qs).outer ∧
    (start.run ps).finish = (start.run qs).finish

theorem CollectedLike.trans {ps qs rs : List Piece} (h : CollectedLike ps qs)
    (h' : CollectedLike qs rs) : CollectedLike ps rs := by
  intro hcloses
  obtain ⟨hq, houter', hfinish'⟩ := h' hcloses
  obtain ⟨hp, houter, hfinish⟩ := h hq
  exact ⟨hp, houter.trans houter', hfinish.trans hfinish'⟩

theorem Collector.Neutral.collectedLike {r : RowRule} (hr : Neutral r) (ps : List Piece) :
    CollectedLike (sweep r ps) ps := by
  intro h
  obtain ⟨hcloses, hrun⟩ := hr.run_sweep h
  exact ⟨hcloses, by rw [hrun], by rw [hrun]⟩

theorem collectedLike_dropLeadingJoint (ps : List Piece) :
    CollectedLike (dropLeadingJoint ps) ps := by
  intro h
  cases ps with
  | nil => exact ⟨h, rfl, rfl⟩
  | cons p ps =>
    cases p with
    | joint c => exact ⟨h.2, rfl, rfl⟩
    | _ => exact ⟨h, rfl, rfl⟩

theorem collectedLike_tidyJoints (ps : List Piece) : CollectedLike (tidyJoints ps) ps := by
  have h := neutral_jointBeforeClosing.collectedLike ps
  replace h := (neutral_jointAfterOpening.collectedLike _).trans h
  replace h := (neutral_doubledJoint.collectedLike _).trans h
  replace h := (collectedLike_dropLeadingJoint _).trans h
  replace h := CollectedLike.trans (fun h => run_sweep_trailingJoint h) h
  exact (neutral_closingBeforeOperand.collectedLike _).trans h

/-! ## Taking out empty pairs -/

/-- No closing bracket stands right before an operand. -/
def Parted : List Piece → Prop
  | [] => True
  | p :: ps => closingBeforeOperand p ps.head? = none ∧ Parted ps

theorem head?_sweep_closingBeforeOperand (ps : List Piece) :
    (sweep closingBeforeOperand ps).head? = ps.head? := by
  cases ps with
  | nil => simp
  | cons p ps =>
    cases hnew : closingBeforeOperand p ps.head? with
    | none => simp [sweep_cons_none hnew]
    | some new =>
      rw [sweep_cons_some hnew]
      unfold closingBeforeOperand at hnew
      split at hnew
      · cases hnew
        rfl
      · cases hnew

theorem parted_sweep_closingBeforeOperand (ps : List Piece) :
    Parted (sweep closingBeforeOperand ps) := by
  induction ps using sweep_induction closingBeforeOperand with
  | nil => simp [Parted]
  | keep p ps hnone ih =>
    rw [sweep_cons_none hnone]
    exact ⟨by rwa [head?_sweep_closingBeforeOperand], ih⟩
  | write p ps new hnew ih =>
    rw [sweep_cons_some hnew]
    unfold closingBeforeOperand at hnew
    split at hnew
    · cases hnew
      exact ⟨rfl, rfl, rfl, ih⟩
    · cases hnew

/-- Only the step at an operand looks at whether a closing bracket was read last. -/
theorem Collector.step_closed {σ : Collector} {p : Piece} (hclosing : p = .closing → σ.outer ≠ [])
    (hoperand : ∀ w, p ≠ .operand w) (closed : Bool) :
    step ⟨σ.outer, σ.inner, closed⟩ p = σ.step p := by
  cases p with
  | operand w => exact absurd rfl (hoperand w)
  | joint c => rfl
  | opening => rfl
  | closing =>
    obtain ⟨outer, inner, closed'⟩ := σ
    cases outer with
    | nil => exact absurd rfl (hclosing rfl)
    | cons l outer => rfl

theorem run_sweep_emptyPair {σ : Collector} {ps : List Piece} (hparted : Parted ps)
    (h : σ.Closes ps) {closed : Bool}
    (hclosed : closed = σ.closed ∨ ∀ w, ps.head? ≠ some (.operand w)) :
    Closes ⟨σ.outer, σ.inner, closed⟩ (sweep emptyPair ps) ∧
      (run ⟨σ.outer, σ.inner, closed⟩ (sweep emptyPair ps)).outer = (σ.run ps).outer ∧
      (run ⟨σ.outer, σ.inner, closed⟩ (sweep emptyPair ps)).inner = (σ.run ps).inner := by
  induction ps using sweep_induction emptyPair generalizing σ closed with
  | nil => simp [Closes]
  | keep p ps hnone ih =>
    have hstep : step ⟨σ.outer, σ.inner, closed⟩ p = σ.step p := by
      rcases hclosed with rfl | hhead
      · rfl
      · exact step_closed h.1 (fun w hw => hhead w (by simp [hw])) closed
    rw [sweep_cons_none hnone]
    simp only [run_cons, Closes, hstep]
    have hnext := ih hparted.2 h.2 (.inl rfl)
    exact ⟨⟨h.1, hnext.1⟩, hnext.2⟩
  | write p ps new hnew ih =>
    rw [sweep_cons_some hnew]
    obtain ⟨rfl, hq, rfl⟩ := emptyPair_eq_some hnew
    obtain ⟨qs, rfl⟩ := List.head?_eq_some_iff.1 hq
    -- the pair only leaves a mark that a closing bracket was read last
    refine ih hparted.2.2 (σ := ⟨σ.outer, σ.inner, true⟩) h.2.2 (.inr ?_)
    intro w hw
    have hfirst := hparted.2.1
    simp [show qs.head? = some (.operand w) from hw, closingBeforeOperand] at hfirst

/-! ## Rows at rest -/

/-- The pieces in front of the innermost open bracket, with all open brackets. -/
def Level.outerPieces : List Level → List Piece
  | [] => []
  | l :: outer => outerPieces outer ++ l.pieces ++ [.opening]

namespace Collector

variable {σ : Collector} {p : Piece} {ps : List Piece}

/-- The pieces that have been read, if none of them was left out. -/
def pieces (σ : Collector) : List Piece := Level.outerPieces σ.outer ++ σ.inner.pieces

/-- Can the piece be read next, or the row end here, without anything being left out? -/
def Fits (σ : Collector) : Option Piece → Prop
  | some (.operand _) => σ.closed = false
  | some (.joint _) | some .closing => ∃ done, σ.inner = .holding done none
  | some .opening => True
  | none => σ.inner.pieces = σ.inner.done

theorem fits_of_holding {done : List Piece} (h : σ.inner = .holding done none) {q : Option Piece}
    (hq : ∀ w, q = some (.operand w) → σ.closed = false) : σ.Fits q := by
  match q with
  | some (.operand w) => exact hq w rfl
  | some (.joint _) | some .closing => exact ⟨done, h⟩
  | some .opening => trivial
  | none => simp [Fits, h, Level.pieces, Level.done, Level.joints]

/-- A piece that fits is collected, and what may stand behind it fits then. -/
theorem Fits.step (h : σ.Fits (some p)) (hclosing : p = .closing → σ.outer ≠ []) :
    (σ.step p).pieces = σ.pieces ++ [p] ∧ ∀ q, p.precedes q = true → (σ.step p).Fits q := by
  obtain ⟨outer, inner, closed⟩ := σ
  cases p with
  | operand w =>
    obtain rfl : closed = false := h
    refine ⟨by simp [Collector.step, pieces, Level.attach, Level.pieces, Level.joints], ?_⟩
    exact fun q _ => fits_of_holding rfl fun _ _ => rfl
  | joint c =>
    obtain ⟨done, rfl⟩ : ∃ done, inner = .holding done none := h
    refine ⟨by simp [Collector.step, pieces, Level.connect, Level.pieces, Level.joints], ?_⟩
    rintro (_ | _ | _ | _ | _) hq <;> first | rfl | exact trivial | cases hq
  | opening =>
    refine ⟨by simp [Collector.step, pieces, Level.pieces, Level.outerPieces], ?_⟩
    rintro (_ | _ | _ | _ | _) hq <;> first | rfl | exact trivial | cases hq
  | closing =>
    obtain ⟨done, rfl⟩ : ∃ done, inner = .holding done none := h
    cases outer with
    | nil => exact absurd rfl (hclosing rfl)
    | cons l outer =>
      refine ⟨by simp [Collector.step, pieces, Level.enclose, Level.attach, Level.pieces,
        Level.outerPieces, Level.joints], fun q hq => fits_of_holding rfl ?_⟩
      rintro w rfl
      cases hq

/-- The pieces of a row at rest are all collected. -/
theorem Fits.run (h : σ.Fits ps.head?) (hrests : Rests ps) (hcloses : σ.Closes ps) :
    (σ.run ps).pieces = σ.pieces ++ ps ∧ (σ.run ps).Fits none := by
  induction ps generalizing σ with
  | nil => exact ⟨by simp, h⟩
  | cons p ps ih =>
    obtain ⟨hpieces, hfits⟩ := h.step hcloses.1
    obtain ⟨hrun, hend⟩ := ih (hfits _ hrests.1) hrests.2 hcloses.2
    exact ⟨by rw [run_cons, hrun, hpieces, List.append_assoc]; rfl, hend⟩

/-- A row at rest is collected as it is. -/
theorem finish_run_of_rests (hrests : Rests ps) (hlead : ∀ c, ps.head? ≠ some (.joint c))
    (hcloses : start.Closes ps) (houter : (start.run ps).outer = []) :
    (start.run ps).finish = ps := by
  have hfits : start.Fits ps.head? := by
    cases ps with
    | nil => rfl
    | cons p ps =>
      cases p with
      | operand w => rfl
      | joint c => exact absurd rfl (hlead c)
      | opening => trivial
      | closing => exact absurd rfl (hcloses.1 rfl)
  obtain ⟨hpieces, hend⟩ := hfits.run hrests hcloses
  have hdone : (start.run ps).finish = (start.run ps).inner.done := by rw [finish, houter]; rfl
  rw [hdone, ← (hend : _ = _)]
  rw [pieces, houter] at hpieces
  exact hpieces

end Collector

/-! ## Repairing brackets -/

theorem head?_balanceRow_succ (d : Nat) (ps : List Piece) :
    (balanceRow (d + 1) ps).head? = some (ps.head?.getD .closing) := by
  cases ps with
  | nil => simp [balanceRow, List.replicate_succ]
  | cons p ps => cases p <;> rfl

theorem sweep_emptyPair_replicate (d : Nat) :
    sweep emptyPair (List.replicate d .closing) = List.replicate d .closing := by
  induction d with
  | zero => simp
  | succ d ih => rw [List.replicate_succ, sweep_cons_none rfl, ih]

/-- Closing all open brackets collects what is collected in the end. -/
theorem run_replicate_closing (outer : List Level) (inner : Level) (closed : Bool) :
    Closes ⟨outer, inner, closed⟩ (List.replicate outer.length .closing) ∧
      (run ⟨outer, inner, closed⟩ (List.replicate outer.length .closing)).outer = [] ∧
      (run ⟨outer, inner, closed⟩ (List.replicate outer.length .closing)).finish =
        finish ⟨outer, inner, closed⟩ := by
  induction outer generalizing inner closed with
  | nil => exact ⟨trivial, rfl, rfl⟩
  | cons l outer ih =>
    obtain ⟨hcloses, hrun⟩ := ih (l.enclose inner) true
    exact ⟨⟨fun _ => by simp, hcloses⟩, hrun⟩

/-- From a repaired row is collected what the open brackets hold once they are closed. -/
theorem run_sweep_balanceRow (σ : Collector) (ps : List Piece) :
    σ.Closes (sweep emptyPair (balanceRow σ.outer.length ps)) ∧
      (σ.run (sweep emptyPair (balanceRow σ.outer.length ps))).outer = [] ∧
      (σ.run (sweep emptyPair (balanceRow σ.outer.length ps))).finish =
        (σ.run (sweep emptyPair ps)).finish := by
  induction ps using sweep_induction emptyPair generalizing σ with
  | nil =>
    rw [balanceRow, sweep_emptyPair_replicate, sweep_nil]
    exact run_replicate_closing σ.outer σ.inner σ.closed
  | write p ps new hnew ih =>
    obtain ⟨rfl, hhead, rfl⟩ := emptyPair_eq_some hnew
    obtain ⟨ps, rfl⟩ := List.head?_eq_some_iff.1 hhead
    rw [balanceRow, balanceRow, sweep_cons_some rfl, sweep_cons_some rfl]
    exact ih σ
  | keep p ps hnone ih =>
    rw [sweep_cons_none hnone]
    cases p with
    | operand w =>
      obtain ⟨hcloses, hrun⟩ := ih (σ.step (.operand w))
      rw [balanceRow, sweep_cons_none rfl]
      exact ⟨⟨by simp, hcloses⟩, hrun⟩
    | joint c =>
      obtain ⟨hcloses, hrun⟩ := ih (σ.step (.joint c))
      rw [balanceRow, sweep_cons_none rfl]
      exact ⟨⟨by simp, hcloses⟩, hrun⟩
    | closing =>
      obtain ⟨outer, inner, closed⟩ := σ
      cases outer with
      | nil => exact ih ⟨[], inner, closed⟩
      | cons l outer =>
        obtain ⟨hcloses, hrun⟩ := ih ⟨outer, l.enclose inner, true⟩
        rw [List.length_cons, balanceRow, sweep_cons_none rfl]
        exact ⟨⟨by simp, hcloses⟩, hrun⟩
    | opening =>
      rw [balanceRow]
      cases ps with
      | nil =>
        -- the bracket that closes the last one leaves nothing between the two
        rw [balanceRow, List.replicate_succ, sweep_cons_some rfl, List.tail_cons, List.nil_append,
          sweep_emptyPair_replicate, sweep_nil]
        exact run_replicate_closing σ.outer σ.inner σ.closed
      | cons q ps =>
        have hhead :
            emptyPair .opening (balanceRow (σ.outer.length + 1) (q :: ps)).head? = none := by
          rw [head?_balanceRow_succ]
          exact hnone
        obtain ⟨hcloses, hrun⟩ := ih (σ.step .opening)
        rw [sweep_cons_none hhead]
        exact ⟨⟨by simp, hcloses⟩, hrun⟩

end RecordFilter.Normal
