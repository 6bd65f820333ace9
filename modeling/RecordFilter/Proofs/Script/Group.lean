import RecordFilter.Proofs.Row.Hollow
import RecordFilter.Proofs.Script.Row

/-!
# Groups without conditions

A group in which every value is absent adds no condition to the filter, but it is not always as if
it had not been written: a connective or a group inside it is enough to put a conjunction in front
of an operand right behind it, in place of the connective that was written there.

## Main statements

* `build_hollow_group`: what is built with such a group, and what it could be replaced by.
* `not_forall_build_hollow_group_eq`: a group that changes the connective between its neighbours.
-/

namespace RecordFilter

open RecordFilter.Normal

/-- The call writes a connective, or conditions on values that are all absent. -/
def Call.Hollow : Call → Prop
  | compare _ _ value | compareBy _ _ value => value.isPresent = false
  | anyOf _ values => ∀ v ∈ values.items?.getD [], v.isPresent = false
  | connect _ => True
  | _ => False

section
variable {ι : Type}

mutual

/-- The step is such a call, or a group of such steps. -/
def Step.Hollow : Step ι → Prop
  | .call _ c => c.Hollow
  | .group _ body => BlockHollow body

def BlockHollow : List (Step ι) → Prop
  | [] => True
  | step :: steps => step.Hollow ∧ BlockHollow steps

end

/-- What a group with this body, between these steps, stands for: nothing, or a conjunction. -/
def groupResidue (i : ι) (before body after : List (Step ι)) : List (Step ι) :=
  if ActsAsAnd (blockPieces before) (blockPieces body) (blockPieces after) then
    [.call i (.connect .and)]
  else []

theorem Condition.pieces_of_absent {c : Condition} (h : c.value.isPresent = false) :
    c.pieces = [] := by
  simp [pieces, text, isPresent, h]

theorem alternativePieces_of_absent (field : String) {vs : List Value}
    (h : ∀ v ∈ vs, v.isPresent = false) : alternativePieces field vs = [] := by
  have hnone : alternativeTexts field vs = [] := by
    refine List.filterMap_eq_nil_iff.2 fun v hv => ?_
    simp [Condition.text, Condition.isPresent, h v hv]
  simp [alternativePieces, hnone]

/-- Such a call writes a connective or nothing. -/
theorem Call.Hollow.pieces_eq {c : Call} (h : c.Hollow) :
    c.pieces = [] ∨ ∃ d, c.pieces = [.joint d] := by
  cases c with
  | compare op field value => exact .inl (Condition.pieces_of_absent h)
  | compareBy symbol field value =>
    cases hop : Operator.ofValue? symbol with
    | none => exact .inl (by simp [pieces, hop])
    | some op =>
      refine .inl ?_
      simpa [pieces, hop] using Condition.pieces_of_absent (c := ⟨field, op, value⟩) h
  | anyOf field values => exact .inl (alternativePieces_of_absent field h)
  | connect d => exact .inr ⟨d, rfl⟩
  | _ => cases h

/-- Steps without present values write a hollow row. -/
theorem BlockHollow.pieces {steps : List (Step ι)} (h : BlockHollow steps) :
    Normal.Hollow (blockPieces steps) := by
  match steps with
  | [] => exact .nil
  | .call j c :: steps =>
    obtain ⟨hcall, hsteps⟩ : c.Hollow ∧ BlockHollow steps := h
    rw [blockPieces, Step.pieces]
    rcases hcall.pieces_eq with hnone | ⟨d, hjoint⟩
    · rw [hnone]
      exact BlockHollow.pieces hsteps
    · rw [hjoint]
      exact .joint d (BlockHollow.pieces hsteps)
  | .group j body :: steps =>
    obtain ⟨hbody, hsteps⟩ : BlockHollow body ∧ BlockHollow steps := h
    rw [blockPieces, Step.pieces, List.cons_append, List.append_assoc, List.singleton_append]
    exact .group (BlockHollow.pieces hbody) (BlockHollow.pieces hsteps)

theorem blockPieces_groupResidue (i : ι) (before body after : List (Step ι)) :
    blockPieces (groupResidue i before body after) =
      residue (blockPieces before) (blockPieces body) (blockPieces after) := by
  unfold groupResidue residue
  split <;> rfl

theorem blockPlain_groupResidue (i : ι) (before body after : List (Step ι)) :
    BlockPlain i (groupResidue i before body after) := by
  unfold groupResidue
  split <;> simp [BlockPlain, Step.Plain, Call.Plain]

end

section
variable {ι : Type} [DecidableEq ι]

/-- With a group that adds no condition, the same is built as with what the group stands for in its
place: a row of the conditions around it. -/
theorem build_hollow_group {i : ι} {before body after : List (Step ι)}
    (hbefore : BlockPlain i before) (hbody : BlockPlain i body) (hafter : BlockPlain i after)
    (hhollow : BlockHollow body) {s : Bench ι} (hs : s i = some (.new .free)) :
    ∃ row, operands row = operands (blockPieces (before ++ after)) ∧
      (runScript (before ++ [.group i body] ++ after ++ [.call i .build]) s).answers.getLast? =
        some (.call "" .null (some (String.ofList (rowText row))) none) ∧
      (runScript (before ++ groupResidue i before body after ++ after ++ [.call i .build])
        s).answers.getLast? =
        some (.call "" .null (some (String.ofList (rowText row))) none) := by
  have hgroup : BlockPlain i (before ++ [.group i body] ++ after) := by
    simp [hbefore, hbody, hafter, BlockPlain, Step.Plain]
  have hresidue : BlockPlain i (before ++ groupResidue i before body after ++ after) := by
    simp [hbefore, hafter, blockPlain_groupResidue]
  have hkept : kept (blockPieces (before ++ [.group i body] ++ after)) =
      kept (blockPieces (before ++ groupResidue i before body after ++ after)) := by
    have h := kept_hollow_group hhollow.pieces (blockPieces before) (blockPieces after)
    simpa [blockPieces, Step.pieces, blockPieces_groupResidue] using h
  have hoperands : operands (kept (blockPieces (before ++ [.group i body] ++ after))) =
      operands (blockPieces (before ++ after)) := by
    rw [hkept, (settled_rowText hresidue.proper).2.2]
    simp [blockPieces_groupResidue, operands_residue]
  exact ⟨_, hoperands, build_row hgroup hs, by rw [hkept, build_row hresidue hs]⟩

/-! ## A connective between two conditions -/

theorem blockPlain_before : BlockPlain () [.call () (.compare .equal "a" (.text "1")),
    .call () (.connect .or)] := ⟨⟨rfl, Call.plain_compare_a⟩, ⟨rfl, trivial⟩, trivial⟩

theorem blockPlain_body : BlockPlain () [.call () (.connect .and)] := ⟨⟨rfl, trivial⟩, trivial⟩

theorem blockPlain_after : BlockPlain () [.call () (.compare .equal "b" (.text "2"))] :=
  ⟨⟨rfl, Call.plain_compare_b⟩, trivial⟩

/-- A group with a connective in it, right in front of an operand, stands for a conjunction. -/
theorem build_hollow_group_before_operand : ∃ row,
    operands row = ["a=\"1\"".toList, "b=\"2\"".toList] ∧
    (runScript ([.call () (.compare .equal "a" (.text "1")), .call () (.connect .or)] ++
      [.group () [.call () (.connect .and)]] ++ [.call () (.compare .equal "b" (.text "2"))] ++
      [.call () .build]) fun _ => some (.new .free)).answers.getLast? =
        some (.call "" .null (some (String.ofList (rowText row))) none) ∧
    (runScript ([.call () (.compare .equal "a" (.text "1")), .call () (.connect .or)] ++
      [.call () (.connect .and)] ++ [.call () (.compare .equal "b" (.text "2"))] ++
      [.call () .build]) fun _ => some (.new .free)).answers.getLast? =
        some (.call "" .null (some (String.ofList (rowText row))) none) := by
  have hresidue : groupResidue () [.call () (.compare .equal "a" (.text "1")),
      .call () (.connect .or)] [.call () (.connect .and)]
      [.call () (.compare .equal "b" (.text "2"))] = [.call () (.connect .and)] :=
    if_pos (by decide +kernel)
  have hconditions : operands (blockPieces ([.call () (.compare .equal "a" (.text "1")),
      .call () (.connect .or)] ++ [.call () (.compare .equal "b" (.text "2"))])) =
      ["a=\"1\"".toList, "b=\"2\"".toList] := by decide +kernel
  have hbuilt := build_hollow_group blockPlain_before blockPlain_body blockPlain_after
    ⟨trivial, trivial⟩ (s := fun _ => some (.new .free)) rfl
  rwa [hresidue, hconditions] at hbuilt

/-- So a group without conditions can change what is built. -/
theorem not_forall_build_hollow_group_eq :
    ¬ ∀ before body after : List (Step Unit), BlockPlain () before → BlockPlain () body →
      BlockPlain () after → BlockHollow body →
      (runScript (before ++ [.group () body] ++ after ++ [.call () .build]) fun _ =>
        some (.new .free)).answers.getLast? =
      (runScript (before ++ after ++ [.call () .build]) fun _ =>
        some (.new .free)).answers.getLast? := by
  intro h
  have hmiddle : BlockPlain () [.group () [.call () (.connect .and)]] :=
    ⟨⟨rfl, blockPlain_body⟩, trivial⟩
  have hgroup := blockPlain_append.2
    ⟨blockPlain_append.2 ⟨blockPlain_before, hmiddle⟩, blockPlain_after⟩
  have hplain := blockPlain_append.2 ⟨blockPlain_before, blockPlain_after⟩
  have hsame := h _ _ _ blockPlain_before blockPlain_body blockPlain_after ⟨trivial, trivial⟩
  rw [build_row hgroup (s := fun _ => some (.new .free)) rfl,
    build_row hplain (s := fun _ => some (.new .free)) rfl] at hsame
  simp only [Option.some.injEq, Answer.call.injEq, true_and, and_true] at hsame
  have hrows := String.ofList_injective hsame
  revert hrows
  decide +kernel

end

end RecordFilter
