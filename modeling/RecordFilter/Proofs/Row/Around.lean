import Mathlib.Data.List.Infix
import RecordFilter.Proofs.Row.Hollow

/-!
# What is put around a row

A connective at an end of a row, or right in front of another one, makes no difference to what is
kept. A pair of brackets around a row encloses what is kept of the row alone, provided that the
brackets of the row are *matched*: it closes only brackets that it opened itself, and all of them.
Such a row is collected inside further brackets as it is collected alone.

## Main statements

* `kept_joint_cons`, `kept_concat_joint`, `kept_joint_joint`: connectives that are not seen.
* `run_sweep_within`: collecting a row inside further brackets.
* `kept_enclosed`: a pair of brackets around a row.
-/

namespace RecordFilter.Normal

open Collector

/-! ## Connectives -/

/-- A connective in front of a row connects nothing. -/
theorem kept_joint_cons (c : Connective) (ps : List Piece) : kept (.joint c :: ps) = kept ps := by
  rw [kept, sweep_cons_none rfl]
  rfl

/-- A connective behind a row connects nothing. -/
theorem kept_concat_joint (ps : List Piece) (c : Connective) :
    kept (ps ++ [.joint c]) = kept ps := by
  have hjoint : Piece.joint c ≠ .closing := nofun
  rw [kept_append_cons hjoint, sweep_cons_none rfl]
  exact finish_connect _ _ c false _

/-- Of two connectives in a row, the second one counts. -/
theorem kept_joint_joint (ps : List Piece) (c d : Connective) (qs : List Piece) :
    kept (ps ++ .joint c :: .joint d :: qs) = kept (ps ++ .joint d :: qs) := by
  have hjoint : ∀ e, Piece.joint e ≠ .closing := nofun
  have hconnect : ∀ l : Level, (l.connect c).connect d = l.connect d := by rintro (_ | _) <;> rfl
  rw [kept_append_cons (hjoint c), kept_append_cons (hjoint d), sweep_cons_none rfl,
    sweep_cons_none rfl, run_cons, run_cons, run_cons]
  simp only [step, hconnect]

/-! ## Texts of rows -/

theorem Piece.Proper.text_ne_nil {p : Piece} (h : p.Proper) : p.text ≠ [] := by
  cases p with
  | operand w =>
    obtain ⟨f, lit, op, ⟨x, v, rfl | rfl, -⟩, -, rfl⟩ := (h : IsOperand w)
    · simp [Piece.text]
    · simp [Piece.text]
  | joint c => simp [Piece.text, Connective.toList_spaced]
  | opening => simp [Piece.text]
  | closing => simp [Piece.text]

/-- Only a row of no pieces has an empty text. -/
theorem rowText_eq_nil_iff {ps : List Piece} (h : ∀ p ∈ ps, p.Proper) :
    rowText ps = [] ↔ ps = [] := by
  cases ps with
  | nil => simp [rowText]
  | cons p ps => simp [(h p (by simp)).text_ne_nil]

/-! ## Matched brackets -/

/-- Inside `depth` open brackets, no prefix of the row closes more than are open. -/
def ClosesWithin (depth : Nat) (ps : List Piece) : Prop :=
  ∀ qs, qs <+: ps → qs.count .closing ≤ depth + qs.count .opening

/-- No prefix of the row closes more brackets than it opens, and the totals agree. -/
structure Matched (ps : List Piece) : Prop where
  before : ∀ qs, qs <+: ps → qs.count .closing ≤ qs.count .opening
  total : ps.count .opening = ps.count .closing

instance (ps : List Piece) : Decidable (Matched ps) :=
  decidable_of_iff ((∀ qs ∈ ps.inits, qs.count .closing ≤ qs.count .opening) ∧
      ps.count .opening = ps.count .closing)
    ⟨fun h => ⟨fun qs hqs => h.1 qs ((List.mem_inits qs ps).2 hqs), h.2⟩,
      fun h => ⟨fun qs hqs => h.before qs ((List.mem_inits qs ps).1 hqs), h.total⟩⟩

theorem Matched.closesWithin {ps : List Piece} (h : Matched ps) : ClosesWithin 0 ps := by
  intro qs hqs
  have hcount := h.before qs hqs
  omega

theorem count_cons_eq (p q : Piece) (ps : List Piece) :
    (p :: ps).count q = [p].count q + ps.count q := by
  rw [← List.singleton_append, List.count_append]

namespace Collector

variable {σ : Collector} {p : Piece} {ps : List Piece}

theorem length_outer_step (hclosing : p = .closing → σ.outer ≠ []) :
    (σ.step p).outer.length + [p].count .closing = σ.outer.length + [p].count .opening := by
  obtain ⟨outer, inner, closed⟩ := σ
  cases p with
  | closing =>
    cases outer with
    | nil => exact absurd rfl (hclosing rfl)
    | cons l outer => rfl
  | _ => rfl

/-- The collector inside further open brackets. -/
def within (σ : Collector) (around : List Level) : Collector :=
  ⟨σ.outer ++ around, σ.inner, σ.closed⟩

theorem step_within (hclosing : p = .closing → σ.outer ≠ []) (around : List Level) :
    (σ.within around).step p = (σ.step p).within around := by
  obtain ⟨outer, inner, closed⟩ := σ
  cases p with
  | closing =>
    cases outer with
    | nil => exact absurd rfl (hclosing rfl)
    | cons l outer => rfl
  | _ => rfl

end Collector

namespace ClosesWithin

variable {σ : Collector} {p : Piece} {ps : List Piece} {depth : Nat}

theorem step (h : ClosesWithin σ.outer.length (p :: ps)) :
    (p = .closing → σ.outer ≠ []) ∧ ClosesWithin (σ.step p).outer.length ps := by
  have hclosing : p = .closing → σ.outer ≠ [] := by
    rintro rfl hnil
    have hfirst := h [.closing] ⟨ps, rfl⟩
    simp [hnil] at hfirst
  refine ⟨hclosing, fun qs hqs => ?_⟩
  have hcount := h (p :: qs) (List.cons_prefix_cons.2 ⟨rfl, hqs⟩)
  have hlength := length_outer_step hclosing
  rw [count_cons_eq, count_cons_eq p .opening] at hcount
  omega

/-- A pair with nothing between its brackets does not count. -/
theorem skip (h : ClosesWithin depth (.opening :: .closing :: ps)) : ClosesWithin depth ps := by
  intro qs hqs
  have hprefix : .opening :: .closing :: qs <+: Piece.opening :: .closing :: ps := by
    simpa [List.cons_prefix_cons] using hqs
  have hcount : qs.count .closing + 1 ≤ depth + (qs.count .opening + 1) := by
    simpa [List.count_cons] using h _ hprefix
  omega

end ClosesWithin

/-- A row that closes no bracket around it is collected inside further brackets as it is without
them, and leaves as many brackets open as it opens and does not close. -/
theorem run_sweep_within {σ : Collector} {ps : List Piece} (h : ClosesWithin σ.outer.length ps)
    (around : List Level) :
    (σ.within around).run (sweep emptyPair ps) = (σ.run (sweep emptyPair ps)).within around ∧
      (σ.run (sweep emptyPair ps)).outer.length + ps.count .closing =
        σ.outer.length + ps.count .opening := by
  induction ps using sweep_induction emptyPair generalizing σ with
  | nil => exact ⟨rfl, rfl⟩
  | keep p ps hnone ih =>
    obtain ⟨hclosing, hps⟩ := h.step
    obtain ⟨hrun, hcount⟩ := ih hps
    have hlength := length_outer_step hclosing
    rw [sweep_cons_none hnone, run_cons, run_cons, step_within hclosing, count_cons_eq,
      count_cons_eq p .opening]
    exact ⟨hrun, by omega⟩
  | write p ps new hnew ih =>
    obtain ⟨rfl, hhead, rfl⟩ := emptyPair_eq_some hnew
    obtain ⟨ps, rfl⟩ := List.head?_eq_some_iff.1 hhead
    rw [List.tail_cons] at ih
    obtain ⟨hrun, hcount⟩ := ih h.skip
    rw [sweep_cons_some hnew, List.tail_cons, List.nil_append]
    refine ⟨hrun, ?_⟩
    simp only [List.count_cons, beq_self_eq_true, if_true, reduceCtorEq, beq_iff_eq, if_false]
    omega

/-! ## Levels that hold something -/

/-- A level that is not bare holds some piece. -/
def Level.Holds : Level → Prop
  | .bare => True
  | .holding done _ => done ≠ []

theorem Level.Holds.connect {l : Level} (h : l.Holds) (c : Connective) : (l.connect c).Holds := by
  cases l with
  | bare => trivial
  | holding done joint => exact h

theorem Level.holds_attach (l : Level) {new : List Piece} (hnew : new ≠ []) :
    (l.attach new).Holds := List.append_ne_nil_of_right_ne_nil _ hnew

theorem Level.Holds.enclose {l : Level} (h : l.Holds) (inner : Level) :
    (l.enclose inner).Holds := by
  cases inner with
  | bare => exact h
  | holding done joint => exact l.holds_attach (by simp)

/-- At no level has a row of no pieces been collected. -/
theorem Collector.holds_run {σ : Collector} (hinner : σ.inner.Holds)
    (houter : ∀ l ∈ σ.outer, l.Holds) (ps : List Piece) : (σ.run ps).inner.Holds := by
  induction ps generalizing σ with
  | nil => exact hinner
  | cons p ps ih =>
    cases p with
    | operand w => exact ih (Level.holds_attach _ (by simp)) houter
    | joint c => exact ih (hinner.connect c) houter
    | opening => exact ih (σ := σ.step .opening) trivial (List.forall_mem_cons.2 ⟨hinner, houter⟩)
    | closing =>
      obtain ⟨outer, inner, closed⟩ := σ
      cases outer with
      | nil => exact ih hinner houter
      | cons l outer =>
        obtain ⟨hl, houter⟩ := List.forall_mem_cons.1 houter
        exact ih (σ := ⟨outer, l.enclose inner, true⟩) (hl.enclose inner) houter

/-! ## A pair of brackets around a row -/

/-- Between a pair of brackets, no bracket of a matched row is taken out with one of the pair. -/
theorem Matched.sweep_enclosed {ps : List Piece} (h : Matched ps) (hne : ps ≠ []) :
    sweep emptyPair (.opening :: (ps ++ [.closing])) =
      .opening :: (sweep emptyPair ps ++ [.closing]) := by
  have hfirst : emptyPair .opening (ps ++ [Piece.closing]).head? = none := by
    obtain ⟨p, ps, rfl⟩ := List.exists_cons_of_ne_nil hne
    cases p with
    | closing => simpa using h.before [.closing] ⟨ps, rfl⟩
    | _ => rfl
  have hlast : ps.getLast? ≠ some .opening := by
    intro hlast
    obtain ⟨qs, rfl⟩ := List.getLast?_eq_some_iff.1 hlast
    have hbefore := h.before qs ⟨_, rfl⟩
    have htotal := h.total
    simp only [List.count_append, List.count_singleton_self] at htotal
    have hnone : [Piece.opening].count .closing = 0 := rfl
    omega
  rw [sweep_cons_none hfirst, sweep_emptyPair_append fun hopening => absurd hopening hlast]
  rfl

/-- A pair of brackets around a row with matched brackets encloses what is kept of the row, and goes
if nothing is kept of it. -/
theorem kept_enclosed {ps : List Piece} (h : Matched ps) :
    kept (.opening :: (ps ++ [.closing])) =
      if kept ps = [] then [] else .opening :: (kept ps ++ [.closing]) := by
  by_cases hnil : ps = []
  · subst hnil
    rfl
  obtain ⟨hrun, hcount⟩ := run_sweep_within (σ := start) h.closesWithin [.bare]
  have hholds := holds_run (σ := start) trivial (by simp [start]) (sweep emptyPair ps)
  have hopen : start.step .opening = start.within [.bare] := rfl
  rw [kept, h.sweep_enclosed hnil, run_cons, run_append, hopen, hrun, kept]
  -- the row has closed all its brackets, so the last one closes the first
  have houter : (start.run (sweep emptyPair ps)).outer = [] := by
    have htotal := h.total
    have hstart : start.outer.length = 0 := rfl
    exact List.length_eq_zero_iff.1 (by omega)
  generalize start.run (sweep emptyPair ps) = σ at houter hholds
  obtain ⟨outer, inner, closed⟩ := σ
  obtain rfl : outer = [] := houter
  cases inner with
  | bare => rfl
  | holding done joint =>
    have hdone : done ≠ [] := hholds
    have hfinish : finish ⟨[], .holding done joint, closed⟩ = done := rfl
    rw [hfinish, if_neg hdone]
    rfl

end RecordFilter.Normal
