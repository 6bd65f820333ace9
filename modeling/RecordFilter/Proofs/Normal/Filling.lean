import Mathlib.Algebra.Ring.Parity
import RecordFilter.Proofs.Normal.Slot

/-!
# Filling slots

However many passes have been made, the slots of a filter are all there, and a reader who takes them
as they come, from left to right and without overlap, finds each of them once and in order. So every
slot that is to be filled has a literal, and every literal has a slot. Before the first pass,
filling them gives the filter back, and the only quote outside a slot is one that is never closed.

## Main statements

* `text_slotPieces`: reading the slots of a text loses nothing.
* `slotPieces_slotted`: the slots that were written are those that are read.
* `slots_kept`: the slots after any number of passes, and what they are filled with.
* `shield_lossless`: shielding loses nothing of a text and leaves no literal outside a slot.
-/

namespace RecordFilter

namespace Normal

open Text

/-! ## Reading slots -/

/-- What a reader of slots comes by: a character that starts no slot, or a slot, with the number
that stands in it. -/
inductive SlotPiece
  | char (c : Char)
  | slot (text : List Char) (number : Nat)
  deriving DecidableEq, Repr

namespace SlotPiece

def text : SlotPiece → List Char
  | char c => [c]
  | slot text _ => text

def slot? : SlotPiece → Option (List Char × Nat)
  | char _ => none
  | slot text number => some (text, number)

/-- What stands there once the slots are filled. A slot whose number is too large cannot be filled.
-/
def filled? (lits : List (List Char)) : SlotPiece → Option (List Char)
  | char c => some [c]
  | slot _ number => lits[number]?

end SlotPiece

/-- What stands behind a slot is a proper end of the text. -/
theorem readSlot?_suffix {c : Char} {s rest : List Char} {n : Nat}
    (h : readSlot? (c :: s) = some (n, rest)) : rest <:+ s := by
  rw [readSlot?] at h
  split at h
  · split at h
    · next heq =>
      split at h
      · cases h
        exact (List.suffix_cons _ _).trans (heq ▸ List.dropWhile_suffix isDigit)
      · cases h
    · cases h
  · cases h

/-- The pieces of a text from left to right. A slot is taken where the first one starts, and reading
goes on behind it. -/
def slotPieces : List Char → List SlotPiece
  | [] => []
  | c :: s =>
    match h : readSlot? (c :: s) with
    | some (n, rest) => .slot ((c :: s).take (s.length + 1 - rest.length)) n :: slotPieces rest
    | none => .char c :: slotPieces s
termination_by s => s.length
decreasing_by
  · exact Nat.lt_succ_of_le (readSlot?_suffix h).length_le
  · exact Nat.lt_succ_self _

theorem slotPieces_cons_none {c : Char} {s : List Char} (h : readSlot? (c :: s) = none) :
    slotPieces (c :: s) = .char c :: slotPieces s := by
  rw [slotPieces]
  split
  · next heq => simp [h] at heq
  · rfl

theorem slotPieces_cons_some {c : Char} {s rest : List Char} {n : Nat}
    (h : readSlot? (c :: s) = some (n, rest)) : slotPieces (c :: s) =
      .slot ((c :: s).take (s.length + 1 - rest.length)) n :: slotPieces rest := by
  rw [slotPieces]
  split
  · next heq =>
    rw [h] at heq
    cases heq
    rfl
  · next heq => simp [h] at heq

/-- Reading the slots of a text loses nothing. -/
theorem text_slotPieces (s : List Char) : (slotPieces s).flatMap SlotPiece.text = s := by
  fun_induction slotPieces s with
  | case1 => rfl
  | case2 c s n rest h ih =>
    obtain ⟨u, hu⟩ := readSlot?_suffix h
    have hlen : s.length + 1 - rest.length = (c :: u).length := by
      rw [← hu]
      simp
      omega
    rw [List.flatMap_cons, ih, SlotPiece.text, hlen, ← hu, ← List.cons_append, List.take_left]
  | case3 c s h ih => simp [SlotPiece.text, ih]

/-! ## Slots that were written -/

variable {segs : List Segment} {raw t : List Char}

/-- The pieces of segments whose literals have given way to slots numbered from `n`. -/
def slottedPieces : Nat → List Segment → List SlotPiece
  | _, [] => []
  | n, .bare c :: segs => .char c :: slottedPieces n segs
  | n, .literal _ :: segs => .slot (slot n) n :: slottedPieces (n + 1) segs

theorem slotPieces_slot_append (n : Nat) (s : List Char) :
    slotPieces (slot n ++ s) = .slot (slot n) n :: slotPieces s := by
  have hread := readSlot?_slot n s
  have htake : (slot n ++ s).take ((slot n ++ s).length - s.length) = slot n := by simp
  simp only [slot, List.cons_append] at hread htake ⊢
  rw [slotPieces_cons_some hread, ← List.length_cons, htake]

/-- The slots that were written are those that are read. -/
theorem slotPieces_slotted (h : sentinel ∉ segs.flatMap Segment.text) (n : Nat) :
    slotPieces (slotted n segs) = slottedPieces n segs := by
  induction segs generalizing n with
  | nil => simp [slotted, slotPieces, slottedPieces]
  | cons seg segs ih =>
    rw [List.flatMap_cons, List.mem_append, not_or] at h
    cases seg with
    | bare c =>
      have hc : c ≠ sentinel := by
        rintro rfl
        simp [Segment.text] at h
      have hread : readSlot? (c :: slotted n segs) = none := by simp [readSlot?, hc]
      rw [slotted, slotPieces_cons_none hread, ih h.2, slottedPieces]
    | literal inside => rw [slotted, slotPieces_slot_append, ih h.2, slottedPieces]

/-- Each number comes up once, in order. -/
theorem slots_slottedPieces (n : Nat) (segs : List Segment) :
    (slottedPieces n segs).filterMap SlotPiece.slot? =
      (List.range' n (literalsOf segs).length).map fun k => (slot k, k) := by
  induction segs generalizing n with
  | nil => rfl
  | cons seg segs ih =>
    cases seg with
    | bare c => exact ih n
    | literal inside => simp [slottedPieces, SlotPiece.slot?, ih, List.range'_succ]

theorem char_not_mem_slottedPieces (h : sentinel ∉ segs.flatMap Segment.text) (n : Nat) :
    .char sentinel ∉ slottedPieces n segs := by
  induction segs generalizing n with
  | nil => exact List.not_mem_nil
  | cons seg segs ih =>
    rw [List.flatMap_cons, List.mem_append, not_or] at h
    cases seg with
    | bare c => simpa [slottedPieces, Segment.text] using And.intro h.1 (ih h.2 n)
    | literal inside => simpa [slottedPieces] using ih h.2 (n + 1)

/-- Every slot has its own literal. -/
theorem filled_slottedPieces (before : List (List Char)) (segs : List Segment) :
    (slottedPieces before.length segs).mapM (SlotPiece.filled? (before ++ literalsOf segs)) =
      some (segs.map Segment.text) := by
  induction segs generalizing before with
  | nil => rfl
  | cons seg segs ih =>
    cases seg with
    | bare c =>
      rw [slottedPieces, literalsOf_bare, List.mapM_cons, ih before]
      rfl
    | literal inside =>
      have hnext := ih (before ++ [(Segment.literal inside).text])
      rw [List.length_append, List.length_singleton, List.append_assoc, List.singleton_append]
        at hnext
      rw [slottedPieces, literalsOf_literal, List.mapM_cons, hnext]
      simp [SlotPiece.filled?]

/-! ## Slots before the first pass -/

theorem quote_not_mem_slot (n : Nat) : '"' ∉ slot n := by
  have hdigits : '"' ∉ (Nat.repr n).toList := by
    intro hmem
    obtain ⟨k, hk, hquote⟩ := exists_digitChar_of_mem_repr hmem
    have hall : ∀ k < 10, '"' ≠ Nat.digitChar k := by decide
    exact hall k hk hquote
  have hsentinel : '"' ≠ sentinel := by decide
  simp only [slot, List.cons_append, List.mem_cons, List.mem_append, List.not_mem_nil, or_false]
  rintro (hmem | hmem | hmem)
  · exact hsentinel hmem
  · exact hdigits hmem
  · exact hsentinel hmem

/-- Each slot takes two quotes out of the text, and only one that is never closed stays. -/
theorem Canonical.count_quote_slotted (h : Canonical segs) (n : Nat) :
    (slotted n segs).count '"' = (segs.flatMap Segment.text).count '"' % 2 := by
  induction segs generalizing n with
  | nil => rfl
  | cons seg segs ih =>
    rw [List.flatMap_cons, List.count_append]
    cases seg with
    | bare c =>
      by_cases hc : c = '"'
      · -- no other quote comes behind one that is never closed
        subst hc
        simp only [Canonical, if_true] at h
        obtain ⟨w, hw, rfl⟩ := h
        have hcount : w.count '"' = 0 := List.count_eq_zero.2 hw
        simp [slotted, slotted_map_bare, Segment.text, text_map_bare, hcount]
      · simp only [Canonical, hc, if_false] at h
        have hcount : [c].count '"' = 0 := by simp [hc]
        rw [slotted, ← List.singleton_append, List.count_append, Segment.text, hcount, ih h,
          Nat.zero_add, Nat.zero_add]
    | literal inside =>
      have hslot : (slot n).count '"' = 0 := List.count_eq_zero.2 (quote_not_mem_slot n)
      have hcount : (Segment.literal inside).text.count '"' = 2 := by
        simp [Segment.text, List.count_eq_zero.2 h.1]
      rw [slotted, List.count_append, hslot, hcount, ih h.2]
      omega

/-- Outside the slots of a text without a sentinel, the quotes of the text are left modulo two. -/
theorem count_quote_shield {s : List Char} (h : sentinel ∉ s) :
    (shield s).text.count '"' = s.count '"' % 2 := by
  have hcount := (canonical_segments s).count_quote_slotted 0
  rw [text_segments] at hcount
  rwa [shield, if_neg h]

/-- Where there is something to put back, every slot of the shielded text has its literal. -/
theorem exists_filled_shield {s : List Char} (h : (shield s).literals ≠ []) :
    ∃ texts, (slotPieces (shield s).text).mapM (SlotPiece.filled? (shield s).literals) =
      some texts := by
  have hs : sentinel ∉ s := fun hmem => h (by rw [shield, if_pos hmem])
  have hsegs : sentinel ∉ (segments s).flatMap Segment.text := by rwa [text_segments]
  refine ⟨(segments s).map Segment.text, ?_⟩
  rw [shield, if_neg hs, slotPieces_slotted hsegs, literals_eq]
  exact filled_slottedPieces [] (segments s)

/-- Filling the slots of a shielded text gives the text back, and where slots are filled at all no
literal is missing. If the text holds no sentinel, at most one quote is left outside the slots: one
if the number of quotes in the text is odd, and none if it is even. -/
theorem shield_lossless (s : List Char) :
    restore (shield s).literals (shield s).text = s ∧
      ((shield s).literals ≠ [] →
        ∃ texts, (slotPieces (shield s).text).mapM (SlotPiece.filled? (shield s).literals) =
          some texts) ∧
      (sentinel ∉ s →
        (shield s).text.count '"' ≤ 1 ∧ ('"' ∈ (shield s).text ↔ Odd (s.count '"'))) := by
  refine ⟨restore_shield s, exists_filled_shield, fun h => ?_⟩
  have hcount := count_quote_shield h
  refine ⟨by omega, ?_⟩
  rw [← List.count_pos_iff, hcount, Nat.odd_iff]
  omega

/-- Literals side by side and between digits, an empty one, and a quote that is never closed. -/
theorem shield_lossless_unclosed_quote :
    let s := "1\"a\"2\"\"\"(\" 3\"b".toList
    (shield s).literals ≠ [] ∧ sentinel ∉ s ∧ restore (shield s).literals (shield s).text = s ∧
      (∃ texts, (slotPieces (shield s).text).mapM (SlotPiece.filled? (shield s).literals) =
        some texts) ∧
      (shield s).text.count '"' ≤ 1 ∧ '"' ∈ (shield s).text := by
  intro s
  have hlits : (shield s).literals ≠ [] := by decide +kernel
  have hsentinel : sentinel ∉ s := by decide +kernel
  have hodd : Odd (s.count '"') := ⟨3, by decide +kernel⟩
  obtain ⟨hrestore, hfilled, hquote⟩ := shield_lossless s
  obtain ⟨hcount, hmem⟩ := hquote hsentinel
  exact ⟨hlits, hsentinel, hrestore, hfilled hlits, hcount, hmem.2 hodd⟩

/-! ## Slots after some passes -/

/-- After any number of passes, the text still is a text with slots for the same literals. -/
theorem exists_segments_iterate_rulePass (h : sentinel ∉ raw) (n : Nat) :
    ∃ segs, rulePass^[n] (balance (shield raw).text) = slotted 0 segs ∧
      literalsOf segs = (shield raw).literals ∧ sentinel ∉ segs.flatMap Segment.text := by
  have hshield : shield raw = ⟨slotted 0 (segments raw), literals raw⟩ := if_neg h
  have hedits : Edits (slotted 0 (segments raw)) (rulePass^[n] (balance (shield raw).text)) := by
    rw [hshield]
    exact Function.Iterate.rec (Edits (slotted 0 (segments raw))) (edits_balanceFrom 0 _)
      (fun s hs => hs.trans (edits_rulePass s)) n
  obtain ⟨segs, ht, -, hlits, htext⟩ := hedits.exists_segments (canonical_segments raw)
  rw [text_segments] at htext
  refine ⟨segs, ht, ?_, ?_⟩
  · rw [hlits, hshield, literals_eq]
  · rwa [htext.mem_iff isPlain_sentinel]

/-- After any number of passes the slots that are read are those of the literals, each once and in
order, and no other sentinel is left. Every one of them can be filled, and restoring the literals
fills them. -/
theorem slots_kept (raw : String) (h : sentinel ∉ raw.toList) (n : Nat) :
    let lits := (shield raw.toList).literals
    let text := rulePass^[n] (balance (shield raw.toList).text)
    (slotPieces text).flatMap SlotPiece.text = text ∧
      (slotPieces text).filterMap SlotPiece.slot? =
        (List.range lits.length).map (fun k => (slot k, k)) ∧
      .char sentinel ∉ slotPieces text ∧
      ∃ texts, (slotPieces text).mapM (SlotPiece.filled? lits) = some texts ∧
        restore lits text = texts.flatten := by
  obtain ⟨segs, htext, hlits, hsentinel⟩ := exists_segments_iterate_rulePass h n
  have hpieces := slotPieces_slotted hsentinel 0
  rw [htext, ← hlits]
  refine ⟨text_slotPieces _, ?_, ?_, segs.map Segment.text, ?_, ?_⟩
  · rw [hpieces, slots_slottedPieces, List.range_eq_range']
  · rw [hpieces]
    exact char_not_mem_slottedPieces hsentinel 0
  · rw [hpieces]
    exact filled_slottedPieces [] segs
  · rw [restore_slotted hsentinel, List.flatMap_def]

/-- Slots between digits, next to each other and behind brackets. -/
theorem slots_kept_between_digits : sentinel ∉ "(1\"a\"2 || \"b\"\"\") && ()3\"".toList ∧
    (slotPieces (rulePass^[2] (prepared "(1\"a\"2 || \"b\"\"\") && ()3\"".toList))).filterMap
      SlotPiece.slot? = [(slot 0, 0), (slot 1, 1), (slot 2, 2)] := by
  have hsentinel : sentinel ∉ "(1\"a\"2 || \"b\"\"\") && ()3\"".toList := by decide +kernel
  have hlits : (shield "(1\"a\"2 || \"b\"\"\") && ()3\"".toList).literals =
      ["\"a\"".toList, "\"b\"".toList, "\"\"".toList] := by decide +kernel
  have hslots := (slots_kept "(1\"a\"2 || \"b\"\"\") && ()3\"" hsentinel 2).2.1
  rw [hlits] at hslots
  exact ⟨hsentinel, hslots⟩

end Normal

end RecordFilter
