import RecordFilter.Proofs.Row.Grammar
import RecordFilter.Proofs.Script.Row

/-!
# Scripts that build expressions

If the caller writes a connective between any two present conditions, wherever the brackets stand
and whether they are balanced or not, then what is built is an expression, but for brackets that may
have lost the connective in front of them. No bracket has lost it if the caller opens brackets only
at the start, behind a connective and behind another bracket.

## Main statements

* `build_isExpr`: what is built from such a script.
* `not_forall_build_isExpr`: a bracket that is opened behind a condition.
-/

namespace RecordFilter

open RecordFilter.Normal

/-- What is built from steps with a connective between any two present conditions is an expression
of these conditions, and nothing only if there are none. It is a strict one if all brackets are
opened behind a connective. -/
theorem build_isExpr {ι : Type} [DecidableEq ι] {i : ι} {steps : List (Step ι)}
    (h : BlockPlain i steps) (hseparated : separated (blockPieces steps) = true) {s : Bench ι}
    (hs : s i = some (.new .free)) :
    ∃ r, (runScript (steps ++ [.call i .build]) s).answers.getLast? =
        some (.call "" .null (some r) none) ∧
      Shows true (operands (blockPieces steps)) r.toList ∧
      (Anchored (blockPieces steps) → Shows false (operands (blockPieces steps)) r.toList) := by
  refine ⟨_, build_row h hs, ?_, fun hanchored => ?_⟩
  · simpa using shows_kept h.proper hseparated (.inl rfl)
  · simpa using shows_kept h.proper hseparated (.inr hanchored)

/-- A bracket that is opened behind a connective keeps it, whatever is written inside. -/
theorem build_isExpr_joined_bracket : ∃ r,
    (runScript ([.call () (.compare .equal "a" (.text "1")), .call () (.connect .or),
      .call () .openBracket, .call () (.connect .and),
      .call () (.compare .equal "b" (.text "2"))] ++ [.call () .build]) fun _ =>
        some (.new .free)).answers.getLast? = some (.call "" .null (some r) none) ∧
      Shows true ["a=\"1\"".toList, "b=\"2\"".toList] r.toList ∧
      Shows false ["a=\"1\"".toList, "b=\"2\"".toList] r.toList := by
  have hplain : BlockPlain () [.call () (.compare .equal "a" (.text "1")), .call () (.connect .or),
      .call () .openBracket, .call () (.connect .and),
      .call () (.compare .equal "b" (.text "2"))] :=
    ⟨⟨rfl, Call.plain_compare_a⟩, ⟨rfl, trivial⟩, ⟨rfl, trivial⟩, ⟨rfl, trivial⟩,
      ⟨rfl, Call.plain_compare_b⟩, trivial⟩
  have hconditions : operands (blockPieces [.call () (.compare .equal "a" (.text "1")),
      .call () (.connect .or), .call () .openBracket, .call () (.connect .and),
      .call () (.compare .equal "b" (.text "2"))]) = ["a=\"1\"".toList, "b=\"2\"".toList] := by
    decide +kernel
  obtain ⟨r, hbuilt, hloose, hstrict⟩ := build_isExpr hplain (by decide +kernel)
    (s := fun _ => some (.new .free)) rfl
  rw [hconditions] at hloose hstrict
  exact ⟨r, hbuilt, hloose, hstrict (by decide +kernel)⟩

/-- A bracket that is opened right behind a condition has no connective in front of it, even if one
is written inside. -/
theorem not_forall_build_isExpr :
    ¬ ∀ steps : List (Step Unit), BlockPlain () steps → separated (blockPieces steps) = true →
      ∃ r, (runScript (steps ++ [.call () .build]) fun _ => some (.new .free)).answers.getLast? =
        some (.call "" .null (some r) none) ∧ (r = "" ∨ ∃ ws, IsExpr false ws r.toList) := by
  intro h
  have hplain : BlockPlain () [.call () (.compare .equal "a" (.text "1")), .call () .openBracket,
      .call () (.connect .and), .call () (.compare .equal "b" (.text "2")),
      .call () .closeBracket] :=
    ⟨⟨rfl, Call.plain_compare_a⟩, ⟨rfl, trivial⟩, ⟨rfl, trivial⟩, ⟨rfl, Call.plain_compare_b⟩,
      ⟨rfl, trivial⟩, trivial⟩
  obtain ⟨r, hbuilt, hr⟩ := h _ hplain (by decide +kernel)
  rw [build_row hplain (s := fun _ => some (.new .free)) rfl] at hbuilt
  simp only [Option.some.injEq, Answer.call.injEq, true_and, and_true] at hbuilt
  subst hbuilt
  rcases hr with hempty | ⟨ws, hexpr⟩
  · have hnil := congrArg String.toList hempty
    rw [String.toList_ofList] at hnil
    revert hnil
    decide +kernel
  · rw [String.toList_ofList] at hexpr
    have hspread := hexpr.spread
    revert hspread
    decide +kernel

end RecordFilter
