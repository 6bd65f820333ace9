import Mathlib.Data.List.Forall2
import RecordFilter.Proofs.Normal.Slot

/-!
# Literals through normalizing

The quoted literals of a filter come out of normalizing as they went in, as long as the filter holds
no sentinel. A filter with a sentinel is given no slots, and the rules see what its literals hold:
each of them is still there, in its place, but the blanks, brackets and connectives in it are
rewritten like those around it.

## Main statements

* `Edits.forall₂_literals`: an edit of a text holds an edit of each of its literals, and no more.
* `literals_normalize`: what normalizing does to literals.
-/

namespace RecordFilter

namespace Normal

variable {q s t : List Char}

theorem segmentsFrom_none_append (hq : '"' ∉ q) (s : List Char) :
    segmentsFrom none (q ++ s) = q.map .bare ++ segmentsFrom none s := by
  induction q with
  | nil => rfl
  | cons c q ih =>
    rw [List.mem_cons, not_or] at hq
    simp [segmentsFrom, Ne.symm hq.1, ih hq.2]

/-- Where no quote comes, no literal ends. -/
theorem literalsOf_segmentsFrom_of_not_mem (hs : '"' ∉ s) (q : Option (List Char)) :
    literalsOf (segmentsFrom q s) = [] := by
  cases q with
  | none =>
    rw [← List.append_nil s, segmentsFrom_none_append hs]
    simp [segmentsFrom]
  | some inside =>
    rw [← List.append_nil s, segmentsFrom_some_append hs]
    exact literalsOf_map_bare _

/-- What two open quotes have collected, last character first: any edit may follow to make one edit
of the whole. -/
def EditsBehind (q r : List Char) : Prop :=
  ∀ ⦃s t⦄, Edits s t → Edits (q.reverse ++ s) (r.reverse ++ t)

theorem editsBehind_nil : EditsBehind [] [] := fun _ _ h => h

theorem EditsBehind.keep {q r : List Char} (h : EditsBehind q r) (x : Char) :
    EditsBehind (x :: q) (x :: r) := by
  intro s t hst
  simpa using h (hst.keep x)

theorem EditsBehind.swap {q r g : List Char} {x : Char} (h : EditsBehind q r)
    (hx : isPlain x = false) (hg : Structural g) : EditsBehind (x :: q) (g.reverse ++ r) := by
  intro s t hst
  simpa using h (hst.swap hx hg)

/-- The literal that two open quotes have collected. -/
theorem EditsBehind.literal {q r : List Char} (h : EditsBehind q r) :
    Edits (Segment.literal q.reverse).text (Segment.literal r.reverse).text :=
  (h (.refl ['"'])).keep '"'

theorem Edits.forall₂_literalsOf_segmentsFrom (h : Edits s t) :
    List.Forall₂ Edits (literalsOf (segmentsFrom none s)) (literalsOf (segmentsFrom none t)) ∧
      ∀ q r, EditsBehind q r → List.Forall₂ Edits (literalsOf (segmentsFrom (some q) s))
        (literalsOf (segmentsFrom (some r) t)) := by
  induction h with
  | nil hg =>
    have hquote := quote_not_mem_of_structural hg
    simp [literalsOf_segmentsFrom_of_not_mem, hquote]
  | @keep x s t h ih =>
    obtain ⟨hnone, hsome⟩ := ih
    by_cases hx : x = '"'
    · refine ⟨by simpa [segmentsFrom, hx] using hsome [] [] editsBehind_nil, fun q r hqr => ?_⟩
      simp only [segmentsFrom, hx, if_true, literalsOf_literal]
      exact .cons hqr.literal hnone
    · refine ⟨by simpa [segmentsFrom, hx] using hnone, fun q r hqr => ?_⟩
      simpa [segmentsFrom, hx] using hsome _ _ (hqr.keep x)
  | @swap x g s t hx hg h ih =>
    obtain ⟨hnone, hsome⟩ := ih
    have hne : x ≠ '"' := by
      rintro rfl
      simp [isPlain_quote] at hx
    have hquote := quote_not_mem_of_structural hg
    refine ⟨?_, fun q r hqr => ?_⟩
    · simpa [segmentsFrom, hne, segmentsFrom_none_append hquote] using hnone
    · simpa [segmentsFrom, hne, segmentsFrom_some_append hquote] using hsome _ _ (hqr.swap hx hg)

/-- An edit of a text holds an edit of each of its literals, in order, and no other literal. -/
theorem Edits.forall₂_literals (h : Edits s t) : List.Forall₂ Edits (literals s) (literals t) :=
  h.forall₂_literalsOf_segmentsFrom.1

/-- Without a sentinel, normalizing keeps the literals. -/
theorem literals_normalizeChars (h : sentinel ∉ s) : literals (normalizeChars s) = literals s := by
  obtain ⟨segs, -, hself, hsegs, hlits, -⟩ := exists_segments_normalizeChars h
  rw [literals_eq, hself, hsegs.segments_text, hlits]

end Normal

open RecordFilter.Normal

/-- A filter without a sentinel keeps its literals as they are. Whatever it holds, there are as many
of them afterwards, each of them an edit of the one that it was. -/
theorem literals_normalize (raw : String) :
    (sentinel ∉ raw.toList → literals (normalize raw).toList = literals raw.toList) ∧
      List.Forall₂ Edits (literals raw.toList) (literals (normalize raw).toList) := by
  rw [normalize, String.toList_ofList]
  exact ⟨literals_normalizeChars, (edits_normalizeChars raw.toList).forall₂_literals⟩

/-- Next to a sentinel, two blanks in a literal become one. -/
theorem not_forall_literals_normalize_eq :
    ¬ ∀ raw : String, literals (normalize raw).toList = literals raw.toList := by
  intro h
  have hone := h "\"\ue000  \""
  revert hone
  decide +kernel

end RecordFilter
