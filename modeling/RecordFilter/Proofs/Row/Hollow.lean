import RecordFilter.Proofs.Row.Kept

/-!
# Hollow groups

A *hollow* group is a bracket pair that holds no operand. What is kept of a row shows a hollow group
only by the mark that a closing bracket leaves: an operand right behind it is joined by a
conjunction. So a hollow group is either as good as absent or stands for a conjunction, and the
pieces around it say which.

## Main statements

* `Hollow.run_sweep_group`: collecting a hollow group.
* `kept_hollow_group`: a row with a hollow group in it, and the same row without it.
-/

namespace RecordFilter.Normal

open Collector

/-- Connectives, and bracket pairs around nothing but such pieces. -/
inductive Hollow : List Piece → Prop
  | nil : Hollow []
  | joint (c : Connective) {ps : List Piece} (h : Hollow ps) : Hollow (.joint c :: ps)
  | group {body ps : List Piece} (hbody : Hollow body) (h : Hollow ps) :
    Hollow (.opening :: (body ++ .closing :: ps))

/-- Does an operand come first in the row, apart from closing brackets and bracket pairs with
nothing at all between them? -/
def leads : List Piece → Bool
  | .operand _ :: _ => true
  | .closing :: ps => leads ps
  | .opening :: .closing :: ps => leads ps
  | _ => false

/-- Does a hollow group with this body, between these rows, act as a conjunction? It does if an
operand leads the second row, unless there is nothing at all between the brackets of the group; such
a group counts only as the contents of a pair of brackets right around it. -/
def ActsAsAnd (before body after : List Piece) : Prop :=
  leads after = true ∧
    (body ≠ [] ∨ before.getLast? = some .opening ∧ after.head? = some .closing)

instance (before body after : List Piece) : Decidable (ActsAsAnd before body after) :=
  inferInstanceAs (Decidable (_ ∧ _))

/-- What a hollow group stands for between two rows. -/
def residue (before body after : List Piece) : List Piece :=
  if ActsAsAnd before body after then [.joint .and] else []

theorem operands_residue (before body after : List Piece) :
    operands (residue before body after) = [] := by
  unfold residue
  split <;> rfl

/-! ## Taking out empty pairs -/

/-- Empty pairs are taken out of two rows one by one, unless a pair stands across their boundary. -/
theorem sweep_emptyPair_append {ps qs : List Piece}
    (h : ps.getLast? = some .opening → qs.head? ≠ some .closing) :
    sweep emptyPair (ps ++ qs) = sweep emptyPair ps ++ sweep emptyPair qs := by
  induction ps using sweep_induction emptyPair with
  | nil => rfl
  | keep p ps hnone ih =>
    have hnone' : emptyPair p (ps ++ qs).head? = none := by
      cases ps with
      | cons q ps => exact hnone
      | nil =>
        by_contra hsome
        obtain ⟨new, hnew⟩ := Option.ne_none_iff_exists'.1 hsome
        obtain ⟨rfl, hq, -⟩ := emptyPair_eq_some hnew
        exact h rfl hq
    have hlast : ps.getLast? = some .opening → qs.head? ≠ some .closing := by
      intro hps
      exact h (by rw [List.getLast?_cons, hps]; rfl)
    rw [List.cons_append, sweep_cons_none hnone', sweep_cons_none hnone, ih hlast]
    rfl
  | write p ps new hnew ih =>
    obtain ⟨rfl, hq, rfl⟩ := emptyPair_eq_some hnew
    obtain ⟨ps, rfl⟩ := List.head?_eq_some_iff.1 hq
    have hlast : ps.getLast? = some .opening → qs.head? ≠ some .closing := by
      intro hps
      exact h (by rw [List.getLast?_cons, List.getLast?_cons, hps]; rfl)
    have hnew' : emptyPair .opening ((.closing :: ps) ++ qs).head? = some [] := rfl
    rw [List.cons_append, sweep_cons_some hnew, sweep_cons_some hnew']
    exact ih hlast

/-- A bracket that is opened before pieces of a hollow row is closed by none of them. -/
theorem Hollow.emptyPair_head? {body : List Piece} (h : Hollow body) (hne : body ≠ [])
    (qs : List Piece) : emptyPair .opening (body ++ qs).head? = none := by
  cases h with
  | nil => exact absurd rfl hne
  | joint c h => rfl
  | group hbody h => rfl

/-- Nothing is collected from a hollow row inside a bracket that holds nothing yet. -/
theorem Hollow.exists_run_sweep {body : List Piece} (h : Hollow body) (outer : List Level)
    (closed : Bool) (qs : List Piece) : ∃ closed',
      run ⟨outer, .bare, closed⟩ (sweep emptyPair (body ++ qs)) =
        run ⟨outer, .bare, closed'⟩ (sweep emptyPair qs) := by
  induction h generalizing outer closed qs with
  | nil => exact ⟨closed, rfl⟩
  | @joint c ps h ih =>
    rw [List.cons_append, sweep_cons_none rfl]
    exact ih outer false qs
  | @group body ps hbody h ihbody ih =>
    rw [List.cons_append, List.append_assoc, List.cons_append]
    by_cases hne : body = []
    · subst hne
      rw [List.nil_append, sweep_cons_some rfl]
      exact ih outer closed qs
    · rw [sweep_cons_none (hbody.emptyPair_head? hne _)]
      obtain ⟨closed', hrun⟩ := ihbody (.bare :: outer) false (.closing :: (ps ++ qs))
      rw [sweep_cons_none rfl] at hrun
      obtain ⟨closed'', hrun'⟩ := ih outer true qs
      exact ⟨closed'', hrun.trans hrun'⟩

/-- A hollow group is collected as a mark that a closing bracket was read last. -/
theorem Hollow.run_sweep_group {body : List Piece} (h : Hollow body) (hne : body ≠ [])
    (σ : Collector) (qs : List Piece) :
    σ.run (sweep emptyPair (.opening :: (body ++ .closing :: qs))) =
      run ⟨σ.outer, σ.inner, true⟩ (sweep emptyPair qs) := by
  obtain ⟨closed, hrun⟩ := h.exists_run_sweep (σ.inner :: σ.outer) false (.closing :: qs)
  rw [sweep_cons_none rfl] at hrun
  rw [sweep_cons_none (h.emptyPair_head? hne _)]
  exact hrun

/-! ## What leads a row -/

section
variable {σ : Collector} {ps : List Piece}

/-- At a closing bracket it does not matter which connective was read before it and whether it was a
closing bracket that was. -/
theorem step_closing_congr {l : Level} {outer : List Level} (houter : σ.outer = l :: outer)
    (closed : Bool) : step ⟨σ.outer, σ.inner, closed⟩ .closing = σ.step .closing ∧
      (σ.step (.joint .and)).step .closing = σ.step .closing := by
  obtain ⟨outer', inner, closed'⟩ := σ
  dsimp only at houter
  subst houter
  exact ⟨rfl, by cases inner <;> rfl⟩

theorem step_closing_of_nil (houter : σ.outer = []) : σ.step .closing = σ := by
  obtain ⟨outer, inner, closed⟩ := σ
  dsimp only at houter
  subst houter
  rfl

/-- A mark that a closing bracket was read last says nothing to a row that no operand leads. -/
theorem finish_run_of_not_leads (h : leads ps = false) (closed : Bool) :
    (run ⟨σ.outer, σ.inner, closed⟩ (sweep emptyPair ps)).finish =
      (σ.run (sweep emptyPair ps)).finish := by
  fun_induction leads ps generalizing σ closed with
  | case1 w ps => cases h
  | case2 ps ih =>
    rw [sweep_cons_none rfl, run_cons, run_cons]
    cases houter : σ.outer with
    | nil =>
      rw [step_closing_of_nil houter, step_closing_of_nil rfl, ← houter]
      exact ih h closed
    | cons l outer => rw [← houter, (step_closing_congr houter closed).1]
  | case3 ps ih =>
    rw [sweep_cons_some rfl]
    exact ih h closed
  | case4 ps hoperand hclosing hpair =>
    match ps with
    | [] => rfl
    | .joint c :: ps => rw [sweep_cons_none rfl]; rfl
    | .opening :: ps =>
      have hnone : emptyPair .opening ps.head? = none := by
        by_contra hsome
        obtain ⟨new, hnew⟩ := Option.ne_none_iff_exists'.1 hsome
        obtain ⟨ps', rfl⟩ := List.head?_eq_some_iff.1 (emptyPair_eq_some hnew).2.1
        exact hpair ps' rfl
      rw [sweep_cons_none hnone]
      rfl
    | .operand w :: ps => exact absurd rfl (hoperand w ps)
    | .closing :: ps => exact absurd rfl (hclosing ps)

/-- To a row that an operand leads, it says the same as a conjunction. -/
theorem finish_run_of_leads (h : leads ps = true) :
    (run ⟨σ.outer, σ.inner, true⟩ (sweep emptyPair ps)).finish =
      ((σ.step (.joint .and)).run (sweep emptyPair ps)).finish := by
  fun_induction leads ps generalizing σ with
  | case1 w ps =>
    rw [sweep_cons_none rfl]
    rfl
  | case2 ps ih =>
    rw [sweep_cons_none rfl, run_cons, run_cons]
    cases houter : σ.outer with
    | nil =>
      rw [step_closing_of_nil rfl, step_closing_of_nil (σ := σ.step (.joint .and)) houter, ← houter]
      exact ih h
    | cons l outer =>
      obtain ⟨hclosed, hjoint⟩ := step_closing_congr houter true
      rw [← houter, hclosed, hjoint]
  | case3 ps ih =>
    rw [sweep_cons_some rfl]
    exact ih h
  | case4 ps hoperand hclosing hpair => cases h

end

/-! ## A hollow group in a row -/

section
variable {before after : List Piece}

theorem kept_append (h : before.getLast? = some .opening → after.head? ≠ some .closing) :
    kept (before ++ after) =
      ((start.run (sweep emptyPair before)).run (sweep emptyPair after)).finish := by
  rw [kept, sweep_emptyPair_append h, run_append]

theorem kept_append_cons {p : Piece} (hp : p ≠ .closing) :
    kept (before ++ p :: after) =
      ((start.run (sweep emptyPair before)).run (sweep emptyPair (p :: after))).finish :=
  kept_append fun _ hhead => hp (Option.some.inj hhead)

theorem run_sweep_append_opening (before : List Piece) :
    start.run (sweep emptyPair (before ++ [.opening])) =
      (start.run (sweep emptyPair before)).step .opening := by
  have h : sweep emptyPair (before ++ [.opening]) =
      sweep emptyPair before ++ sweep emptyPair [.opening] := sweep_emptyPair_append (by simp)
  rw [h, sweep_cons_none rfl, run_append]
  rfl

/-- Where no operand leads what follows, a mark that a closing bracket was read last goes unseen. -/
theorem kept_append_of_not_leads (h : leads after = false) {σ : Collector}
    (hσ : start.run (sweep emptyPair before) = σ) (closed : Bool) :
    kept (before ++ after) = (run ⟨σ.outer, σ.inner, closed⟩ (sweep emptyPair after)).finish := by
  subst hσ
  by_cases hpair : before.getLast? = some .opening ∧ after.head? = some .closing
  · obtain ⟨hlast, hhead⟩ := hpair
    obtain ⟨before, rfl⟩ := List.getLast?_eq_some_iff.1 hlast
    obtain ⟨after, rfl⟩ := List.head?_eq_some_iff.1 hhead
    have hopening : Piece.opening ≠ .closing := nofun
    rw [run_sweep_append_opening, List.append_assoc, List.singleton_append,
      kept_append_cons hopening, sweep_cons_some rfl, sweep_cons_none rfl]
    have hafter : leads after = false := h
    exact (finish_run_of_not_leads hafter true).symm
  · rw [kept_append fun hlast hhead => hpair ⟨hlast, hhead⟩]
    exact (finish_run_of_not_leads h closed).symm

/-- A conjunction right before the closing bracket of a pair makes no difference. -/
theorem kept_joint_of_pair (hlast : before.getLast? = some .opening)
    (hhead : after.head? = some .closing) (c : Connective) :
    kept (before ++ .joint c :: after) =
      ((start.run (sweep emptyPair before)).run (sweep emptyPair after)).finish := by
  obtain ⟨before, rfl⟩ := List.getLast?_eq_some_iff.1 hlast
  obtain ⟨after, rfl⟩ := List.head?_eq_some_iff.1 hhead
  have hjoint : Piece.joint c ≠ .closing := nofun
  rw [kept_append_cons hjoint, run_sweep_append_opening, sweep_cons_none rfl, sweep_cons_none rfl]
  rfl

/-- Behind a hollow group, the row is read on as if the group had not been there, but for the mark
that a closing bracket was read last; a group with nothing at all inside leaves not even that. -/
theorem kept_group {body : List Piece} (hbody : Hollow body) {σ : Collector}
    (hσ : start.run (sweep emptyPair before) = σ) :
    kept (before ++ .opening :: (body ++ .closing :: after)) =
      (run ⟨σ.outer, σ.inner, if body = [] then σ.closed else true⟩ (sweep emptyPair after)).finish
    := by
  have hopening : Piece.opening ≠ .closing := nofun
  rw [kept_append_cons hopening, hσ]
  split
  · next hnil =>
    subst hnil
    rw [List.nil_append, sweep_cons_some rfl]
    rfl
  · next hne => rw [hbody.run_sweep_group hne]

/-- A hollow group can be replaced by what it stands for. -/
theorem kept_hollow_group {body : List Piece} (hbody : Hollow body) (before after : List Piece) :
    kept (before ++ .opening :: (body ++ .closing :: after)) =
      kept (before ++ residue before body after ++ after) := by
  obtain ⟨σ, hσ⟩ : ∃ σ, start.run (sweep emptyPair before) = σ := ⟨_, rfl⟩
  have hjoint : Piece.joint .and ≠ .closing := nofun
  rw [kept_group hbody hσ, List.append_assoc]
  by_cases hacts : ActsAsAnd before body after
  · rw [residue, if_pos hacts, List.singleton_append]
    obtain ⟨hleads, hcase⟩ := hacts
    by_cases hnil : body = []
    · obtain ⟨hlast, hhead⟩ := hcase.resolve_left (absurd hnil)
      rw [kept_joint_of_pair hlast hhead, hσ, if_pos hnil]
    · rw [kept_append_cons hjoint, hσ, if_neg hnil]
      exact finish_run_of_leads hleads
  · rw [residue, if_neg hacts, List.nil_append]
    cases hleads : leads after with
    | false => exact (kept_append_of_not_leads hleads hσ _).symm
    | true =>
      have hcase := not_or.1 fun hcase => hacts ⟨hleads, hcase⟩
      rw [kept_append fun hlast hhead => hcase.2 ⟨hlast, hhead⟩, hσ, if_pos (not_not.1 hcase.1)]

end

end RecordFilter.Normal
