import RecordFilter.Proofs.Normal.Literal

/-!
# The frame of a filter

The *frame* of a filter is what stands outside its quoted literals, with a hole for each of them.
Two filters without a sentinel have the same frame if and only if they are the same behind their
slots, and this is all that normalizing sees of them: whatever the literals hold, the frame that
comes out is the same, and the literals of each filter return to its holes.

## Main statements

* `text_shield_eq_iff`: shielded texts are equal if the frames are.
* `normalize_noninterference`: what the literals hold makes no difference to the frame.
-/

namespace RecordFilter

namespace Normal

/-- The character of a segment, or a hole for the literal. -/
def Segment.outside : Segment → Option Char
  | bare c => some c
  | literal _ => none

/-- The characters outside the literals of a text, with a hole for each literal. -/
def frame (s : List Char) : List (Option Char) := (segments s).map Segment.outside

variable {r s : List Char}

/-- Slots are numbered by what stands before them, and not by what the literals hold. -/
theorem slotted_congr {segs segs' : List Segment}
    (h : segs.map Segment.outside = segs'.map Segment.outside) (n : Nat) :
    slotted n segs = slotted n segs' := by
  induction segs generalizing segs' n with
  | nil => simp_all
  | cons seg segs ih =>
    obtain ⟨seg', segs', rfl⟩ := List.exists_cons_of_ne_nil (l := segs') (by rintro rfl; simp at h)
    obtain ⟨hhead, htail⟩ := List.cons.inj h
    cases seg <;> cases seg' <;> simp_all [Segment.outside, slotted, ih htail]

/-- Where no sentinel stands outside the slots, the slots show where the literals were. -/
theorem map_outside_eq_of_slotted {segs segs' : List Segment} {n : Nat}
    (hsegs : sentinel ∉ segs.flatMap Segment.text) (hsegs' : sentinel ∉ segs'.flatMap Segment.text)
    (h : slotted n segs = slotted n segs') :
    segs.map Segment.outside = segs'.map Segment.outside := by
  induction segs generalizing segs' n with
  | nil =>
    cases segs' with
    | nil => rfl
    | cons seg' segs' => cases seg' <;> simp [slotted, slot] at h
  | cons seg segs ih =>
    cases segs' with
    | nil => cases seg <;> simp [slotted, slot] at h
    | cons seg' segs' =>
      simp only [List.flatMap_cons, List.mem_append, not_or] at hsegs hsegs'
      cases seg with
      | bare c =>
        cases seg' with
        | bare c' =>
          obtain ⟨rfl, htail⟩ := List.cons.inj h
          simp [Segment.outside, ih hsegs.2 hsegs'.2 htail]
        | literal inside' =>
          have hc : c = sentinel := (List.cons.inj h).1
          exact absurd hsegs.1 (by simp [Segment.text, hc])
      | literal inside =>
        cases seg' with
        | bare c' =>
          have hc : sentinel = c' := (List.cons.inj h).1
          exact absurd hsegs'.1 (by simp [Segment.text, hc])
        | literal inside' =>
          have htail : slotted (n + 1) segs = slotted (n + 1) segs' := List.append_cancel_left h
          simp [Segment.outside, ih hsegs.2 hsegs'.2 htail]

/-- Texts without a sentinel are the same behind their slots if they differ only in what their
literals hold. -/
theorem text_shield_eq_iff (hr : sentinel ∉ r) (hs : sentinel ∉ s) :
    (shield r).text = (shield s).text ↔ frame r = frame s := by
  rw [shield, if_neg hr, shield, if_neg hs]
  refine ⟨fun h => map_outside_eq_of_slotted ?_ ?_ h, fun h => slotted_congr h 0⟩
  · rwa [text_segments]
  · rwa [text_segments]

theorem sentinel_not_mem_normalizeChars (h : sentinel ∉ s) : sentinel ∉ normalizeChars s := by
  rwa [(edits_normalizeChars s).mem_iff isPlain_sentinel]

/-- The passes work on the shielded text and on nothing else. -/
theorem settled_congr (h : (shield r).text = (shield s).text) : settled r = settled s := by
  have hprepared : prepared r = prepared s := by rw [prepared, h, prepared]
  rw [settled, hprepared, settled]

theorem frame_normalizeChars (hr : sentinel ∉ r) (hs : sentinel ∉ s) (h : frame r = frame s) :
    frame (normalizeChars r) = frame (normalizeChars s) := by
  have hr' := sentinel_not_mem_normalizeChars hr
  have hs' := sentinel_not_mem_normalizeChars hs
  rw [← text_shield_eq_iff hr' hs', text_shield_normalizeChars, text_shield_normalizeChars,
    settled_congr ((text_shield_eq_iff hr hs).2 h)]

end Normal

open RecordFilter.Normal

/-- Two filters that are the same behind their slots are normalized to filters that are the same
behind their slots, and each keeps its own literals. So the normalized filters differ in nothing but
what their literals hold. -/
theorem normalize_noninterference {r₁ r₂ : String} (h₁ : sentinel ∉ r₁.toList)
    (h₂ : sentinel ∉ r₂.toList) (h : (shield r₁.toList).text = (shield r₂.toList).text) :
    (shield (normalize r₁).toList).text = (shield (normalize r₂).toList).text ∧
      (shield (normalize r₁).toList).literals = literals r₁.toList ∧
      (shield (normalize r₂).toList).literals = literals r₂.toList ∧
      frame (normalize r₁).toList = frame (normalize r₂).toList := by
  have hlits : ∀ {r : List Char}, sentinel ∉ r →
      (shield (normalizeChars r)).literals = literals r := by
    intro r hr
    rw [shield_normalizeChars, shield, if_neg hr]
  simp only [normalize, String.toList_ofList]
  refine ⟨?_, hlits h₁, hlits h₂, frame_normalizeChars h₁ h₂ ((text_shield_eq_iff h₁ h₂).1 h)⟩
  rw [text_shield_normalizeChars, text_shield_normalizeChars, settled_congr h]

/-- Brackets and connectives in a literal are no part of the filter around it. -/
theorem normalize_noninterference_structural_inside :
    frame (normalize "(a=\"(\" || ) b=\"1\"").toList =
        frame (normalize "(a=\" && )\" || ) b=\"\"").toList ∧
      (shield (normalize "(a=\"(\" || ) b=\"1\"").toList).literals =
        ["\"(\"".toList, "\"1\"".toList] ∧
      (shield (normalize "(a=\" && )\" || ) b=\"\"").toList).literals =
        ["\" && )\"".toList, "\"\"".toList] := by
  obtain ⟨-, hlits₁, hlits₂, hframe⟩ := @normalize_noninterference "(a=\"(\" || ) b=\"1\""
    "(a=\" && )\" || ) b=\"\"" (by decide) (by decide) (by decide +kernel)
  refine ⟨hframe, hlits₁.trans ?_, hlits₂.trans ?_⟩
  · decide +kernel
  · decide +kernel

end RecordFilter
