import RecordFilter.Proofs.Normal.Edit
import RecordFilter.Proofs.Text.Digit

/-!
# Slots through an edit

A slot is made of operand characters, so an edit of a shielded text holds the same slots with the
same numbers in the same order. Restoring it gives a text that is cut into the same literals, and
shielding that text gives the edit again.

## Main statements

* `restore_slotted`: every slot is filled with its own literal.
* `restore_shield`: putting the literals of a filter back into their slots gives the filter.
* `Edits.exists_segments`: an edit of a shielded text is a shielded text with the same literals.
* `shield_normalizeChars`: shielding a normalized filter shows what the passes came to rest at.
-/

namespace RecordFilter.Normal

open Text

/-! ## Literals of segments -/

/-- The quoted literals among the segments, with their quotes. -/
def literalsOf (segs : List Segment) : List (List Char) := segs.filterMap Segment.literal?

@[simp] theorem literalsOf_nil : literalsOf [] = [] := rfl

@[simp] theorem literalsOf_bare (c : Char) (segs : List Segment) :
    literalsOf (.bare c :: segs) = literalsOf segs := rfl

@[simp] theorem literalsOf_literal (inside : List Char) (segs : List Segment) :
    literalsOf (.literal inside :: segs) = (Segment.literal inside).text :: literalsOf segs := rfl

@[simp] theorem literalsOf_append (segs segs' : List Segment) :
    literalsOf (segs ++ segs') = literalsOf segs ++ literalsOf segs' := by
  simp [literalsOf]

@[simp] theorem literalsOf_map_bare (g : List Char) : literalsOf (g.map .bare) = [] := by
  induction g with
  | nil => rfl
  | cons x g ih => exact ih

theorem literals_eq (s : List Char) : literals s = literalsOf (segments s) := rfl

/-! ## Filling slots -/

theorem isPlain_sentinel : isPlain sentinel = true := by decide

theorem isPlain_quote : isPlain '"' = true := by decide

theorem isPlain_of_mem_slot {n : Nat} {x : Char} (h : x ∈ slot n) : isPlain x = true := by
  simp only [slot, List.cons_append, List.mem_cons, List.mem_append, List.not_mem_nil,
    or_false] at h
  rcases h with rfl | h | rfl
  · exact isPlain_sentinel
  · obtain ⟨k, hk, rfl⟩ := exists_digitChar_of_mem_repr h
    have hall : ∀ k < 10, isPlain (Nat.digitChar k) = true := by decide
    exact hall k hk
  · exact isPlain_sentinel

theorem readSlot?_digits {ds : List Char} (hne : ds ≠ []) (hds : ∀ x ∈ ds, isDigit x = true)
    (s : List Char) :
    readSlot? (sentinel :: (ds ++ sentinel :: s)) = some (numberOfDigits ds, s) := by
  have hsentinel : isDigit sentinel = false := by decide +kernel
  have htake : (ds ++ sentinel :: s).takeWhile isDigit = ds := by
    simp [List.takeWhile_append_of_pos hds, hsentinel]
  have hdrop : (ds ++ sentinel :: s).dropWhile isDigit = sentinel :: s := by
    simp [List.dropWhile_append_of_pos hds, hsentinel]
  rw [readSlot?, if_pos rfl, htake, hdrop]
  cases ds with
  | nil => exact absurd rfl hne
  | cons d ds => simp

/-- A slot is read back as its number. -/
theorem readSlot?_slot (n : Nat) (s : List Char) : readSlot? (slot n ++ s) = some (n, s) := by
  have hdigits : ∀ x ∈ (Nat.repr n).toList, isDigit x = true := by
    intro x hx
    obtain ⟨k, hk, rfl⟩ := exists_digitChar_of_mem_repr hx
    exact isDigit_digitChar hk
  have hread := readSlot?_digits (by simp) hdigits s
  rw [numberOfDigits_repr] at hread
  rwa [slot, List.cons_append, List.cons_append, List.append_assoc]

theorem fillSlot_slot {lits : List (List Char)} {n : Nat} {lit : List Char}
    (h : lits[n]? = some lit) (s : List Char) : fillSlot lits (slot n ++ s) = some ⟨lit, s⟩ := by
  simp [fillSlot, readSlot?_slot, h]

theorem fillSlot_cons {c : Char} (hc : c ≠ sentinel) (lits : List (List Char)) (s : List Char) :
    fillSlot lits (c :: s) = none := by
  simp [fillSlot, readSlot?, hc]

theorem replaceAll_fillSlot (before : List (List Char)) {segs : List Segment}
    (h : sentinel ∉ segs.flatMap Segment.text) :
    replaceAll (fillSlot (before ++ literalsOf segs)) (slotted before.length segs) =
      segs.flatMap Segment.text := by
  induction segs generalizing before with
  | nil => rfl
  | cons seg segs ih =>
    rw [List.flatMap_cons, List.mem_append, not_or] at h
    cases seg with
    | bare c =>
      have hc : c ≠ sentinel := by rintro rfl; simp [Segment.text] at h
      simp only [slotted, literalsOf_bare]
      rw [replaceAll_cons_none (fillSlot_cons hc _ _), ih before h.2]
      rfl
    | literal inside =>
      have hlit : (before ++ literalsOf (.literal inside :: segs))[before.length]? =
          some (Segment.literal inside).text := by
        simp
      have hfill := fillSlot_slot hlit (slotted (before.length + 1) segs)
      have hnext := ih (before ++ [(Segment.literal inside).text]) h.2
      simp only [slotted, slot, List.cons_append] at hfill ⊢
      rw [replaceAll_cons_some hfill ⟨_, rfl⟩]
      simpa using hnext

/-- Every slot is filled with its own literal. -/
theorem restore_slotted {segs : List Segment} (h : sentinel ∉ segs.flatMap Segment.text) :
    restore (literalsOf segs) (slotted 0 segs) = segs.flatMap Segment.text := by
  have hfill := replaceAll_fillSlot [] h
  unfold restore
  split
  · next hempty =>
    rw [List.isEmpty_iff] at hempty
    rw [← hfill, hempty]
    refine (replaceAll_eq_self fun t _ _ => ?_).symm
    cases hr : readSlot? t <;> simp [fillSlot, hr]
  · exact hfill

/-- Putting the literals of a filter back into their slots gives the filter. -/
theorem restore_shield (t : List Char) : restore (shield t).literals (shield t).text = t := by
  by_cases h : sentinel ∈ t
  · rw [shield, if_pos h]
    rfl
  · have hsegs : sentinel ∉ (segments t).flatMap Segment.text := by rwa [text_segments]
    rw [shield, if_neg h, literals_eq, restore_slotted hsegs, text_segments]

/-! ## Cutting -/

/-- The segments that a text is cut into: literals hold no quote, and a quote on its own is never
closed. -/
def Canonical : List Segment → Prop
  | [] => True
  | .bare c :: segs =>
    if c = '"' then ∃ w : List Char, '"' ∉ w ∧ segs = w.map .bare else Canonical segs
  | .literal inside :: segs => '"' ∉ inside ∧ Canonical segs

theorem canonical_segmentsFrom (q : Option (List Char)) (s : List Char)
    (hq : ∀ inside ∈ q, '"' ∉ inside) : Canonical (segmentsFrom q s) := by
  induction s generalizing q with
  | nil =>
    cases q with
    | none => trivial
    | some inside =>
      have hinside := hq inside rfl
      simp only [segmentsFrom, List.map_cons, Canonical, if_true]
      exact ⟨inside.reverse, by simpa using hinside, rfl⟩
  | cons c s ih =>
    cases q with
    | none =>
      by_cases hc : c = '"'
      · simpa [segmentsFrom, hc] using ih (some []) (by simp)
      · simpa [segmentsFrom, hc, Canonical] using ih none (by simp)
    | some inside =>
      have hinside := hq inside rfl
      by_cases hc : c = '"'
      · simpa [segmentsFrom, hc, Canonical, hinside] using ih none (by simp)
      · simpa [segmentsFrom, hc] using ih (some (c :: inside)) (by simp [hinside, Ne.symm hc])

theorem canonical_segments (s : List Char) : Canonical (segments s) :=
  canonical_segmentsFrom none s (by simp)

/-- Characters that are no quotes are collected by an open quote. -/
theorem segmentsFrom_some_append {w : List Char} (hw : '"' ∉ w) (inside s : List Char) :
    segmentsFrom (some inside) (w ++ s) = segmentsFrom (some (w.reverse ++ inside)) s := by
  induction w generalizing inside with
  | nil => rfl
  | cons c w ih =>
    rw [List.mem_cons, not_or] at hw
    simp [segmentsFrom, Ne.symm hw.1, ih hw.2]

theorem segments_literal {inside : List Char} (h : '"' ∉ inside) (s : List Char) :
    segments ((Segment.literal inside).text ++ s) = .literal inside :: segments s := by
  have hcollect := segmentsFrom_some_append h [] ('"' :: s)
  simp only [List.append_nil] at hcollect
  simp [segments, Segment.text, segmentsFrom, hcollect]

theorem segments_bare {c : Char} (h : c ≠ '"') (s : List Char) :
    segments (c :: s) = .bare c :: segments s := by
  simp [segments, segmentsFrom, h]

/-- Cutting the text of such segments gives them back. -/
theorem Canonical.segments_text {segs : List Segment} (h : Canonical segs) :
    segments (segs.flatMap Segment.text) = segs := by
  induction segs with
  | nil => rfl
  | cons seg segs ih =>
    rw [List.flatMap_cons]
    cases seg with
    | bare c =>
      by_cases hc : c = '"'
      · subst hc
        simp only [Canonical, if_true] at h
        obtain ⟨w, hw, rfl⟩ := h
        have hcollect := segmentsFrom_some_append hw [] []
        simp only [List.append_nil] at hcollect
        simp [segments, segmentsFrom, Segment.text, text_map_bare, hcollect]
      · simp only [Canonical, hc, if_false] at h
        simp only [Segment.text, List.singleton_append]
        rw [segments_bare hc, ih h]
    | literal inside =>
      rw [segments_literal h.1, ih h.2]

theorem quote_not_mem_of_structural {g : List Char} (hg : Structural g) : '"' ∉ g := by
  intro hmem
  have hplain := hg '"' hmem
  rw [isPlain_quote] at hplain
  cases hplain

theorem canonical_map_bare_append {g : List Char} (hg : '"' ∉ g) {segs : List Segment} :
    Canonical (g.map Segment.bare ++ segs) ↔ Canonical segs := by
  induction g with
  | nil => rfl
  | cons x g ih =>
    rw [List.mem_cons, not_or] at hg
    simpa [Canonical, Ne.symm hg.1] using ih hg.2

theorem slotted_map_bare_append (n : Nat) (g : List Char) (segs : List Segment) :
    slotted n (g.map Segment.bare ++ segs) = g ++ slotted n segs := by
  induction g with
  | nil => rfl
  | cons x g ih => simpa [slotted] using ih

theorem slotted_map_bare (n : Nat) (g : List Char) : slotted n (g.map Segment.bare) = g := by
  simpa [slotted] using slotted_map_bare_append n g []

theorem text_map_bare_append (g : List Char) (segs : List Segment) :
    (g.map Segment.bare ++ segs).flatMap Segment.text = g ++ segs.flatMap Segment.text := by
  rw [List.flatMap_append, text_map_bare]

/-! ## Edits of a shielded text -/

/-- An edit of a shielded text is a shielded text with the same literals, and putting them back
makes it an edit of the text that was shielded. -/
theorem Edits.exists_segments {n : Nat} {segs : List Segment} {t : List Char}
    (h : Edits (slotted n segs) t) (hsegs : Canonical segs) :
    ∃ segs', t = slotted n segs' ∧ Canonical segs' ∧
      literalsOf segs' = literalsOf segs ∧
      Edits (segs.flatMap Segment.text) (segs'.flatMap Segment.text) := by
  induction segs generalizing n t with
  | nil =>
    have ht : Structural t := h.structural_of_nil
    refine ⟨t.map .bare, (slotted_map_bare n t).symm, ?_, ?_, ?_⟩
    · rw [← List.append_nil (t.map _), canonical_map_bare_append (quote_not_mem_of_structural ht)]
      trivial
    · exact literalsOf_map_bare t
    · rw [text_map_bare]
      exact .nil ht
  | cons seg segs ih =>
    cases seg with
    | bare c =>
      by_cases hc : c = '"'
      · -- an open quote: only bare characters follow, and none of them becomes a quote
        subst hc
        simp only [Canonical, if_true] at hsegs
        obtain ⟨w, hw, rfl⟩ := hsegs
        simp only [slotted, slotted_map_bare] at h
        obtain ⟨t', rfl, ht'⟩ := exists_of_plain_append (w := ['"']) (by simp [isPlain_quote]) h
        have hquote : '"' ∉ t' := by rwa [ht'.mem_iff isPlain_quote]
        refine ⟨.bare '"' :: t'.map .bare, ?_, ?_, ?_, ?_⟩
        · simp [slotted, slotted_map_bare]
        · simp only [Canonical, if_true]
          exact ⟨t', hquote, rfl⟩
        · simp
        · simpa [Segment.text, text_map_bare] using ht'.keep '"'
      · simp only [Canonical, hc, if_false] at hsegs
        cases h with
        | keep _ h =>
          obtain ⟨segs', rfl, hsegs', hlits, htext⟩ := ih h hsegs
          refine ⟨.bare c :: segs', rfl, ?_, hlits, htext.keep c⟩
          simpa only [Canonical, hc, if_false] using hsegs'
        | @swap _ g _ _ hplain hg h =>
          obtain ⟨segs', rfl, hsegs', hlits, htext⟩ := ih h hsegs
          refine ⟨g.map .bare ++ segs', (slotted_map_bare_append n g segs').symm, ?_, ?_, ?_⟩
          · exact (canonical_map_bare_append (quote_not_mem_of_structural hg)).2 hsegs'
          · simpa using hlits
          · rw [text_map_bare_append]
            exact .swap hplain hg htext
    | literal inside =>
      obtain ⟨t', rfl, ht'⟩ := h.exists_of_plain_append fun x => isPlain_of_mem_slot
      obtain ⟨segs', rfl, hsegs', hlits, htext⟩ := ih ht' hsegs.2
      refine ⟨.literal inside :: segs', rfl, ⟨hsegs.1, hsegs'⟩, ?_, htext.append_left _⟩
      exact congrArg (List.cons _) hlits

/-- Without a sentinel, a filter is normalized to the text that the passes came to rest at with its
slots filled, and that is an edit of the filter with the same literals. -/
theorem exists_segments_normalizeChars {raw : List Char} (h : sentinel ∉ raw) :
    ∃ segs, (settled raw).text = slotted 0 segs ∧ normalizeChars raw = segs.flatMap Segment.text ∧
      Canonical segs ∧ literalsOf segs = literals raw ∧ Edits raw (normalizeChars raw) := by
  have hshield : shield raw = ⟨slotted 0 (segments raw), literals raw⟩ := if_neg h
  have hedits := edits_settled raw
  rw [hshield] at hedits
  obtain ⟨segs, ht, hsegs, hlits, htext⟩ := hedits.exists_segments (canonical_segments raw)
  rw [text_segments] at htext
  have hmem : sentinel ∉ segs.flatMap Segment.text := by rwa [htext.mem_iff isPlain_sentinel]
  have hrestore : normalizeChars raw = segs.flatMap Segment.text := by
    rw [normalizeChars, hshield, ht, literals_eq, ← hlits, restore_slotted hmem]
  exact ⟨segs, ht, hrestore, hsegs, hlits, hrestore ▸ htext⟩

/-- A filter with a sentinel has no slots, and what the passes came to rest at is its normal form.
-/
theorem normalizeChars_of_sentinel {raw : List Char} (h : sentinel ∈ raw) :
    normalizeChars raw = (settled raw).text ∧ Edits raw (settled raw).text := by
  have hshield : shield raw = ⟨raw, []⟩ := if_pos h
  have hedits := edits_settled raw
  rw [hshield] at hedits
  refine ⟨?_, hedits⟩
  rw [normalizeChars, hshield]
  rfl

/-- All that is done to a filter is one edit. -/
theorem edits_normalizeChars (raw : List Char) : Edits raw (normalizeChars raw) := by
  by_cases h : sentinel ∈ raw
  · obtain ⟨hself, hedits⟩ := normalizeChars_of_sentinel h
    rwa [hself]
  · obtain ⟨segs, -, -, -, -, hedits⟩ := exists_segments_normalizeChars h
    exact hedits

/-- Shielding a normalized filter shows the text that the passes came to rest at, behind the same
literals. -/
theorem shield_normalizeChars (raw : List Char) :
    shield (normalizeChars raw) = ⟨(settled raw).text, (shield raw).literals⟩ := by
  have hmem := (edits_normalizeChars raw).mem_iff isPlain_sentinel
  by_cases hraw : sentinel ∈ raw
  · obtain ⟨hself, -⟩ := normalizeChars_of_sentinel hraw
    rw [shield, if_pos (hmem.2 hraw), shield, if_pos hraw, hself]
  · obtain ⟨segs, ht, hrestore, hsegs, hlits, -⟩ := exists_segments_normalizeChars hraw
    rw [shield, if_neg (mt hmem.1 hraw), shield, if_neg hraw, literals_eq (normalizeChars raw),
      hrestore, hsegs.segments_text, hlits, ht]

theorem text_shield_normalizeChars (raw : List Char) :
    (shield (normalizeChars raw)).text = (settled raw).text := by
  rw [shield_normalizeChars]

end RecordFilter.Normal
