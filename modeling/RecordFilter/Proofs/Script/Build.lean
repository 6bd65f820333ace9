import RecordFilter.Proofs.Row.Around
import RecordFilter.Proofs.Script.Constraint
import RecordFilter.Proofs.Script.Row

/-!
# Connectives and groups around a script

What is built from a script on a fresh builder depends on the row that the script writes. A
connective that the caller writes first, last or right in front of another one makes no difference
to it, whatever else the script does. A group around a script with matched brackets puts what the
script builds in brackets.

## Main statements

* `builds_row`: what is built from a script, by its row.
* `builds_superfluous_connectives`: connectives that make no difference.
* `builds_enclosed`: a group around a script.
-/

namespace RecordFilter

open RecordFilter.Normal

section
variable {ι : Type} [DecidableEq ι]

/-- Building after the steps returns the text and leaves nothing behind. -/
def Builds (i : ι) (s : Bench ι) (steps : List (Step ι)) (r : String) : Prop :=
  (runScript (steps ++ [.call i .build]) s).answers.getLast? =
    some (.call "" .null (some r) none)

variable {i : ι} {s : Bench ι} {k : Constraint} {steps before after : List (Step ι)}

/-- On a fresh builder that accepts the fields, the text of what is kept of the row is built. -/
theorem builds_row (h : BlockPlain i steps) (hs : s i = some (.new k))
    (haccepted : BlockAccepted s.constraints steps) :
    Builds i s steps (String.ofList (rowText (kept (blockPieces steps)))) := by
  have hbuilt : normalize (String.ofList (rowText (blockPieces steps))) =
      String.ofList (rowText (kept (blockPieces steps))) := by
    rw [normalize, String.toList_ofList, normalizeChars_rowText h.proper]
  rw [Builds, h.writes.getLast?_build_of_accepted hs haccepted, hbuilt]

/-- Steps that leave the same row build the same. -/
theorem builds_of_kept_eq {steps' : List (Step ι)} (h : BlockPlain i steps)
    (hs : s i = some (.new k)) (haccepted : BlockAccepted s.constraints steps)
    (hkept : kept (blockPieces steps) = kept (blockPieces steps')) :
    Builds i s steps (String.ofList (rowText (kept (blockPieces steps')))) := by
  have hrow := builds_row h hs haccepted
  rwa [hkept] at hrow

/-! ## Superfluous connectives -/

/-- A connective at the start or at the end of a script is as good as none, and of two in a row the
first is: the last one written counts. -/
theorem builds_superfluous_connectives (hbefore : BlockPlain i before)
    (hafter : BlockPlain i after) (hs : s i = some (.new k))
    (hbefore' : BlockAccepted s.constraints before) (hafter' : BlockAccepted s.constraints after)
    (c d : Connective) :
    ∃ r r', Builds i s before r ∧ Builds i s ([.call i (.connect c)] ++ before) r ∧
      Builds i s (before ++ [.call i (.connect c)]) r ∧
      Builds i s (before ++ [.call i (.connect d)] ++ after) r' ∧
      Builds i s (before ++ [.call i (.connect c)] ++ [.call i (.connect d)] ++ after) r' := by
  have hplain : ∀ e, BlockPlain i [.call i (.connect e)] := fun e => ⟨⟨rfl, trivial⟩, trivial⟩
  have haccepted : ∀ e, BlockAccepted s.constraints [.call i (.connect e)] :=
    fun e => ⟨fun _ _ => trivial, trivial⟩
  have hfirst := builds_of_kept_eq (blockPlain_append.2 ⟨hplain c, hbefore⟩) hs
    (blockAccepted_append.2 ⟨haccepted c, hbefore'⟩) (kept_joint_cons c (blockPieces before))
  have hlast : kept (blockPieces (before ++ [.call i (.connect c)])) =
      kept (blockPieces before) := by
    rw [blockPieces_append]
    exact kept_concat_joint (blockPieces before) c
  refine ⟨_, _, builds_row hbefore hs hbefore', hfirst, builds_of_kept_eq ?_ hs ?_ hlast,
    builds_row ?_ hs ?_, builds_of_kept_eq ?_ hs ?_ ?_⟩
  · exact blockPlain_append.2 ⟨hbefore, hplain c⟩
  · exact blockAccepted_append.2 ⟨hbefore', haccepted c⟩
  · simp only [blockPlain_append]
    exact ⟨⟨hbefore, hplain d⟩, hafter⟩
  · simp only [blockAccepted_append]
    exact ⟨⟨hbefore', haccepted d⟩, hafter'⟩
  · simp only [blockPlain_append]
    exact ⟨⟨⟨hbefore, hplain c⟩, hplain d⟩, hafter⟩
  · simp only [blockAccepted_append]
    exact ⟨⟨⟨hbefore', haccepted c⟩, haccepted d⟩, hafter'⟩
  · simp only [blockPieces_append, List.append_assoc]
    exact kept_joint_joint (blockPieces before) c d (blockPieces after)

end

theorem accepts_a : (Constraint.ofNames ["a", "b"]).accepts "a" = true := by decide +kernel

theorem accepts_b : (Constraint.ofNames ["a", "b"]).accepts "b" = true := by decide +kernel

/-- The connective behind a closed bracket and in front of an opened one is the one written last,
also where neither bracket has a counterpart. -/
theorem builds_superfluous_connectives_stray_brackets :
    ∃ r r', Builds () (fun _ => some (.new (.ofNames ["a", "b"])))
        [.call () (.compare .equal "a" (.text "1")), .call () .closeBracket] r ∧
      Builds () (fun _ => some (.new (.ofNames ["a", "b"])))
        ([.call () (.connect .or)] ++
          [.call () (.compare .equal "a" (.text "1")), .call () .closeBracket]) r ∧
      Builds () (fun _ => some (.new (.ofNames ["a", "b"])))
        ([.call () (.compare .equal "a" (.text "1")), .call () .closeBracket] ++
          [.call () (.connect .or)]) r ∧
      Builds () (fun _ => some (.new (.ofNames ["a", "b"])))
        ([.call () (.compare .equal "a" (.text "1")), .call () .closeBracket] ++
          [.call () (.connect .and)] ++
          [.call () .openBracket, .call () (.compare .equal "b" (.text "2"))]) r' ∧
      Builds () (fun _ => some (.new (.ofNames ["a", "b"])))
        ([.call () (.compare .equal "a" (.text "1")), .call () .closeBracket] ++
          [.call () (.connect .or)] ++ [.call () (.connect .and)] ++
          [.call () .openBracket, .call () (.compare .equal "b" (.text "2"))]) r' := by
  have hbefore : BlockPlain () [.call () (.compare .equal "a" (.text "1")),
      .call () .closeBracket] := ⟨⟨rfl, Call.plain_compare_a⟩, ⟨rfl, trivial⟩, trivial⟩
  have hafter : BlockPlain () [.call () .openBracket,
      .call () (.compare .equal "b" (.text "2"))] :=
    ⟨⟨rfl, trivial⟩, ⟨rfl, Call.plain_compare_b⟩, trivial⟩
  exact builds_superfluous_connectives (s := fun _ => some (.new (.ofNames ["a", "b"]))) hbefore
    hafter rfl
    ⟨fun _ hl => Option.some.inj hl ▸ accepts_a, fun _ _ => trivial, trivial⟩
    ⟨fun _ _ => trivial, fun _ hl => Option.some.inj hl ▸ accepts_b, trivial⟩ .or .and

section
variable {ι : Type} [DecidableEq ι] {i : ι} {s : Bench ι} {k : Constraint}
  {steps : List (Step ι)}

/-! ## A group around a script -/

/-- If the steps close only brackets that they opened and close them all, a group around them builds
what they build alone, in brackets, and nothing if they build nothing. -/
theorem builds_enclosed (h : BlockPlain i steps) (hmatched : Matched (blockPieces steps))
    (hs : s i = some (.new k)) (haccepted : BlockAccepted s.constraints steps) :
    ∃ r, Builds i s steps r ∧
      Builds i s [.group i steps] (if r = "" then "" else "(" ++ r ++ ")") := by
  have hgroup : Builds i s [.group i steps] _ :=
    builds_row ⟨⟨rfl, h⟩, trivial⟩ hs ⟨haccepted, trivial⟩
  have hrow : blockPieces [.group i steps] = .opening :: (blockPieces steps ++ [.closing]) := by
    simp [blockPieces, Step.pieces]
  rw [hrow, kept_enclosed hmatched] at hgroup
  refine ⟨_, builds_row h hs haccepted, ?_⟩
  obtain ⟨-, hproper, -⟩ := settled_rowText h.proper
  by_cases hkept : kept (blockPieces steps) = []
  · rw [if_pos hkept] at hgroup
    have hempty : String.ofList (rowText []) = "" := rfl
    rw [hkept, hempty, if_pos rfl]
    exact hgroup
  · have htext : String.ofList (rowText (kept (blockPieces steps))) ≠ "" := by
      intro hempty
      have hnil := congrArg String.toList hempty
      rw [String.toList_ofList] at hnil
      exact hkept ((rowText_eq_nil_iff hproper).1 hnil)
    rw [if_neg hkept] at hgroup
    rw [if_neg htext]
    simpa [rowText, Piece.text, String.ofList_append, String.append_assoc] using hgroup

end

/-- A group keeps what is inside even if the connectives inside dangle and an inner group is empty.
-/
theorem builds_enclosed_dangling :
    ∃ r, Builds () (fun _ => some (.new (.ofNames ["a", "b"])))
        [.call () (.connect .and), .call () (.compare .equal "a" (.text "1")),
          .call () (.connect .or), .group () [.call () (.connect .and)],
          .call () (.compare .equal "b" (.text "2")), .call () .openBracket,
          .call () .closeBracket, .call () (.connect .or)] r ∧
      Builds () (fun _ => some (.new (.ofNames ["a", "b"])))
        [.group () [.call () (.connect .and), .call () (.compare .equal "a" (.text "1")),
          .call () (.connect .or), .group () [.call () (.connect .and)],
          .call () (.compare .equal "b" (.text "2")), .call () .openBracket,
          .call () .closeBracket, .call () (.connect .or)]]
        (if r = "" then "" else "(" ++ r ++ ")") := by
  exact builds_enclosed ⟨⟨rfl, trivial⟩, ⟨rfl, Call.plain_compare_a⟩, ⟨rfl, trivial⟩,
      ⟨rfl, ⟨rfl, trivial⟩, trivial⟩, ⟨rfl, Call.plain_compare_b⟩, ⟨rfl, trivial⟩, ⟨rfl, trivial⟩,
      ⟨rfl, trivial⟩, trivial⟩ (by decide +kernel) rfl
    ⟨fun _ _ => trivial, fun _ hl => Option.some.inj hl ▸ accepts_a,
      fun _ _ => trivial, ⟨fun _ _ => trivial, trivial⟩,
      fun _ hl => Option.some.inj hl ▸ accepts_b, fun _ _ => trivial,
      fun _ _ => trivial, fun _ _ => trivial, trivial⟩

end RecordFilter
