import RecordFilter.Proofs.Normal.ReadBack

/-!
# Passages

A *passage* is a part of a filter together with what is kept of it, both cut into segments. What is
read from its shielded text does not depend on the number of its first slot or on what stands in
front of it, so passages can be put one behind the other, joined by connectives and put into
brackets.

## Main statements

* `Passage.join_readFrom`, `Passage.bracket_readFrom`: passages built from smaller ones.
* `normalizeChars_of_yields`: a filter that is one passage is normalized to what is kept of it.
-/

namespace RecordFilter.Normal

open Text

/-! ## Closed segments -/

/-- The segment holds no sentinel, and no quote but those of a literal. -/
def Segment.Closed : Segment → Prop
  | bare c => c ≠ '"' ∧ c ≠ sentinel
  | literal inside => '"' ∉ inside ∧ sentinel ∉ inside

def Closed (segs : List Segment) : Prop := ∀ seg ∈ segs, seg.Closed

@[simp] theorem closed_nil : Closed [] := by simp [Closed]

@[simp] theorem closed_cons {seg : Segment} {segs : List Segment} :
    Closed (seg :: segs) ↔ seg.Closed ∧ Closed segs := by
  simp [Closed]

@[simp] theorem closed_append {segs segs' : List Segment} :
    Closed (segs ++ segs') ↔ Closed segs ∧ Closed segs' := by
  simp [Closed, or_imp, forall_and]

theorem closed_map_bare {g : List Char} :
    Closed (g.map .bare) ↔ '"' ∉ g ∧ sentinel ∉ g := by
  induction g with
  | nil => simp
  | cons x g ih =>
    rw [List.map_cons, closed_cons, ih, List.mem_cons, List.mem_cons, not_or, not_or]
    simp only [Segment.Closed, ne_comm (a := x)]
    exact and_and_and_comm

theorem Closed.canonical {segs : List Segment} (h : Closed segs) : Canonical segs := by
  induction segs with
  | nil => trivial
  | cons seg segs ih =>
    obtain ⟨hseg, hsegs⟩ := closed_cons.1 h
    cases seg with
    | bare c => simpa [Canonical, hseg.1] using ih hsegs
    | literal inside => exact ⟨hseg.1, ih hsegs⟩

theorem Closed.sentinel_not_mem {segs : List Segment} (h : Closed segs) :
    sentinel ∉ segs.flatMap Segment.text := by
  have hquote : sentinel ≠ '"' := by decide
  intro hmem
  obtain ⟨seg, hseg, hmem⟩ := List.mem_flatMap.1 hmem
  have hclosed := h seg hseg
  cases seg with
  | bare c => exact hclosed.2 (by simpa [Segment.text, eq_comm] using hmem)
  | literal inside => exact hclosed.2 (by simpa [Segment.text, hquote] using hmem)

/-- How many slots the segments need. -/
def slotCount (segs : List Segment) : Nat := (literalsOf segs).length

theorem slotted_append (n : Nat) (segs segs' : List Segment) :
    slotted n (segs ++ segs') = slotted n segs ++ slotted (n + slotCount segs) segs' := by
  induction segs generalizing n with
  | nil => rfl
  | cons seg segs ih =>
    cases seg with
    | bare c => simpa [slotted, slotCount] using ih n
    | literal inside =>
      simpa [slotted, slotCount, Nat.add_assoc, Nat.add_comm 1] using ih (n + 1)

/-! ## Passages -/

/-- A part of a filter as it is written, and what is kept of it, if anything. All literals are. -/
structure Passage where
  written : List Segment
  kept : Option (List Segment)
  closed_written : Closed written
  closed_kept : ∀ segs ∈ kept, Closed segs
  literals_eq : literalsOf (kept.getD []) = literalsOf written

/-- A connective between its two spaces. -/
def spacedSegments (c : Connective) : List Segment := c.spaced.toList.map .bare

theorem closed_spacedSegments (c : Connective) : Closed (spacedSegments c) := by
  cases c <;> exact closed_map_bare.2 (by decide)

@[simp] theorem literalsOf_spacedSegments (c : Connective) : literalsOf (spacedSegments c) = [] :=
  literalsOf_map_bare _

@[simp] theorem slotted_spacedSegments (n : Nat) (c : Connective) :
    slotted n (spacedSegments c) = c.spaced.toList := slotted_map_bare n _

@[simp] theorem slotCount_spacedSegments (c : Connective) : slotCount (spacedSegments c) = 0 := by
  simp [slotCount]

theorem isPlain_of_mem_slotted {segs : List Segment} (h : ∀ c, .bare c ∈ segs → isPlain c = true)
    {n : Nat} {x : Char} (hx : x ∈ slotted n segs) : isPlain x = true := by
  induction segs generalizing n with
  | nil => cases hx
  | cons seg segs ih =>
    have htail : ∀ c, .bare c ∈ segs → isPlain c = true := fun c hc => h c (by simp [hc])
    cases seg with
    | bare c =>
      rcases List.mem_cons.1 hx with rfl | hx
      · exact h x (by simp)
      · exact ih htail hx
    | literal inside =>
      rcases List.mem_append.1 hx with hx | hx
      · exact isPlain_of_mem_slot hx
      · exact ih htail hx

namespace Passage

/-- Nothing is written and nothing is kept. -/
def nothing : Passage where
  written := []
  kept := none
  closed_written := closed_nil
  closed_kept := by simp
  literals_eq := rfl

/-- What is written is kept. -/
def operand (segs : List Segment) (h : Closed segs) : Passage where
  written := segs
  kept := some segs
  closed_written := h
  closed_kept := by simpa using h
  literals_eq := rfl

/-- A passage in brackets, which are kept if anything is kept inside. -/
def bracket (p : Passage) : Passage where
  written := .bare '(' :: p.written ++ [.bare ')']
  kept := p.kept.map fun segs => .bare '(' :: segs ++ [.bare ')']
  closed_written := by
    have h := p.closed_written
    simp [Segment.Closed, h]
    decide
  closed_kept := by
    intro segs hsegs
    obtain ⟨k, hk, rfl⟩ := Option.map_eq_some_iff.1 hsegs
    have h := p.closed_kept k hk
    simp [Segment.Closed, h]
    decide
  literals_eq := by
    have h := p.literals_eq
    cases hk : p.kept with
    | none => simpa [hk] using h
    | some segs => simpa [hk] using h

/-- Two passages with a connective between them, which is kept if something is kept on both sides.
-/
def join (p : Passage) (c : Connective) (q : Passage) : Passage where
  written := p.written ++ spacedSegments c ++ q.written
  kept := Option.merge (fun l r => l ++ spacedSegments c ++ r) p.kept q.kept
  closed_written := by
    simp [p.closed_written, q.closed_written, closed_spacedSegments]
  closed_kept := by
    have hp := p.closed_kept
    have hq := q.closed_kept
    cases hk : p.kept <;> cases hk' : q.kept <;>
      simp_all [Option.merge, closed_spacedSegments]
  literals_eq := by
    have hp := p.literals_eq
    have hq := q.literals_eq
    cases hk : p.kept <;> cases hk' : q.kept <;>
      simp_all [Option.merge]

/-- The slots that the kept part of a passage needs are those of the written part. -/
theorem slotCount_kept {p : Passage} {segs : List Segment} (h : p.kept = some segs) :
    slotCount segs = slotCount p.written := by
  have hlits := p.literals_eq
  rw [h] at hlits
  exact congrArg List.length hlits

theorem slotCount_written_of_none {p : Passage} (h : p.kept = none) : slotCount p.written = 0 := by
  have hlits := p.literals_eq
  rw [h] at hlits
  exact congrArg List.length hlits.symm

end Passage

/-! ## Reading a passage -/

namespace Reader

variable {σ : Reader}

/-- A connective, a closing bracket or the end of the text may follow. -/
def Complete (σ : Reader) : Prop := σ.Whole ∧ σ.phase ≠ .gap

/-- Nothing has been collected since the start of the text or the last open bracket. -/
def Opening (σ : Reader) : Prop := σ.phase = .fresh ∧ σ.done = none

theorem Opening.expecting (h : σ.Opening) : σ.Expecting := .inl h.1

theorem Expecting.complete (h : σ.Expecting) : σ.Complete := by
  refine ⟨h.whole, fun hgap => ?_⟩
  rw [Expecting, hgap] at h
  simp at h

/-- What has been collected behind a passage of which this is kept. -/
def put (σ : Reader) : Option (List Char) → Option (List Char)
  | none => σ.done
  | some k => some (σ.front ++ k)

theorem finish_of_whole (h : σ.Whole) (houter : σ.outer = []) :
    σ.finish = some (σ.done.getD []) := by
  obtain ⟨outer, done, ph⟩ := σ
  dsimp only at houter
  subst houter
  cases ph with
  | half c => exact absurd rfl (h c)
  | _ => rfl

theorem run_spaced (h : σ.Whole) (c : Connective) (s : List Char) :
    σ.run (c.spaced.toList ++ s) = (σ.joined c).run s := by
  have hspace : Blanks [' '] := by simp
  rw [Connective.toList_spaced]
  exact h.run_connective hspace hspace c s

theorem run_operand {u : List Char} (hσ : σ.Expecting ∨ σ.phase = .word) (hne : u ≠ [])
    (hu : ∀ x ∈ u, isPlain x = true) : σ.run u = some ⟨σ.outer, some (σ.front ++ u), .word⟩ := by
  induction u generalizing σ with
  | nil => exact absurd rfl hne
  | cons x u ih =>
    have hstep : σ.step x = some ⟨σ.outer, some (σ.front ++ [x]), .word⟩ := by
      rw [step_operand (hu x (by simp))]
      obtain ⟨outer, done, ph⟩ := σ
      rcases hσ with (rfl | ⟨c, rfl⟩) | rfl <;> rfl
    rw [run, hstep, Option.bind_some]
    cases u with
    | nil => rfl
    | cons y u =>
      rw [ih (.inr rfl) (by simp) fun z hz => hu z (by simp [hz])]
      simp [front]

theorem closeBracket_of_complete {f : Frame} {outer : List Frame} (h : σ.Complete)
    (houter : σ.outer = f :: outer) :
    σ.closeBracket = some ⟨outer, f.enclose σ.done, .closed⟩ := by
  obtain ⟨outer', done, ph⟩ := σ
  dsimp only at houter
  subst houter
  cases ph with
  | half c => exact absurd rfl (h.1 c)
  | gap => exact absurd rfl h.2
  | _ => rfl

end Reader

open Reader

namespace Passage

variable {p q : Passage} {S : Reader → Prop}

/-- Every reader of the kind collects what is kept of the passage, whatever number its first slot
has, and can go on with a connective, a closing bracket or the end of the text. -/
def ReadFrom (p : Passage) (S : Reader → Prop) : Prop :=
  ∀ n σ, S σ → ∃ ph, Complete ⟨σ.outer, σ.put (p.kept.map (slotted n)), ph⟩ ∧
    σ.run (slotted n p.written) = some ⟨σ.outer, σ.put (p.kept.map (slotted n)), ph⟩

theorem ReadFrom.opening (h : p.ReadFrom Expecting) : p.ReadFrom Opening :=
  fun n σ hσ => h n σ hσ.expecting

theorem nothing_readFrom : nothing.ReadFrom Expecting :=
  fun _ σ hσ => ⟨σ.phase, hσ.complete, rfl⟩

theorem operand_readFrom {segs : List Segment} (h : Closed segs) (hne : segs ≠ [])
    (hplain : ∀ c, .bare c ∈ segs → isPlain c = true) : (operand segs h).ReadFrom Expecting := by
  intro n σ hσ
  refine ⟨.word, by simp [Complete, Whole], run_operand (.inl hσ) ?_ ?_⟩
  · cases segs with
    | nil => exact absurd rfl hne
    | cons seg segs => cases seg <;> simp [operand, slotted, slot]
  · exact fun x => isPlain_of_mem_slotted hplain

theorem bracket_readFrom (h : p.ReadFrom Opening) : p.bracket.ReadFrom Expecting := by
  intro n σ hσ
  have hopen : σ.openBracket = some ⟨⟨σ.done, σ.front⟩ :: σ.outer, none, .fresh⟩ := by
    obtain ⟨outer, done, ph⟩ := σ
    rcases hσ with rfl | ⟨c, rfl⟩ <;> rfl
  obtain ⟨ph, hcomplete, hrun⟩ := h n ⟨⟨σ.done, σ.front⟩ :: σ.outer, none, .fresh⟩ ⟨rfl, rfl⟩
  refine ⟨.closed, by simp [Complete, Whole], ?_⟩
  have hwritten : slotted n p.bracket.written = '(' :: (slotted n p.written ++ [')']) := by
    simp [bracket, slotted, slotted_append]
  rw [hwritten, run, step_open, hopen, Option.bind_some, run_append, hrun, Option.bind_some, run,
    step_close, closeBracket_of_complete hcomplete rfl]
  cases hk : p.kept with
  | none => simp [bracket, hk, put, Frame.enclose, run]
  | some segs => simp [bracket, hk, put, front, Frame.enclose, run, slotted, slotted_append]

/-- What the reader collects from two passages with a connective between them. If nothing is kept of
the first one, the reader may not have had anything to join the second one to. -/
theorem put_join {σ : Reader} (hσ : p.kept = none → σ.done = none) (n : Nat) (c : Connective)
    (ph : Phase) :
    (Reader.joined ⟨σ.outer, σ.put (p.kept.map (slotted n)), ph⟩ c).put
        (q.kept.map (slotted (n + slotCount p.written))) =
      σ.put ((p.join c q).kept.map (slotted n)) := by
  cases hp : p.kept with
  | none =>
    have hdone := hσ hp
    have hcount := slotCount_written_of_none hp
    cases hq : q.kept with
    | none => simp [join, hp, hq, put, joined, hdone]
    | some r => simp [join, hp, hq, put, joined, front, hdone, hcount]
  | some l =>
    have hcount := slotCount_kept hp
    cases hq : q.kept with
    | none => simp [join, hp, hq, put, joined]
    | some r => simp [join, hp, hq, put, joined, front, slotted_append, hcount]

theorem join_readFrom (hp : p.ReadFrom S) (hq : q.ReadFrom Expecting)
    (hS : p.kept = none → ∀ σ, S σ → σ.done = none) (c : Connective) :
    (p.join c q).ReadFrom S := by
  intro n σ hσ
  obtain ⟨ph, hcomplete, hrun⟩ := hp n σ hσ
  obtain ⟨ph', hcomplete', hrun'⟩ := hq (n + slotCount p.written)
    (Reader.joined ⟨σ.outer, σ.put (p.kept.map (slotted n)), ph⟩ c) (.inr ⟨c, rfl⟩)
  rw [put_join (fun hk => hS hk σ hσ) n c ph] at hcomplete' hrun'
  refine ⟨ph', hcomplete', ?_⟩
  have hwritten : slotted n (p.join c q).written = slotted n p.written ++
      (c.spaced.toList ++ slotted (n + slotCount p.written) q.written) := by
    simp [join, slotted_append]
  rw [hwritten, run_append, hrun, Option.bind_some, run_spaced hcomplete.1, hrun']
  rfl

end Passage

/-! ## Texts of passages -/

/-- `written` is the text of a passage that such readers read, and `kept` is what is kept of it. -/
def Yields (S : Reader → Prop) (written : List Char) (kept : Option (List Char)) : Prop :=
  ∃ p : Passage, p.ReadFrom S ∧ p.written.flatMap Segment.text = written ∧
    p.kept.map (fun segs => segs.flatMap Segment.text) = kept

theorem yields_nothing : Yields Expecting [] none := ⟨.nothing, Passage.nothing_readFrom, rfl, rfl⟩

theorem yields_operand {segs : List Segment} (h : Closed segs) (hne : segs ≠ [])
    (hplain : ∀ c, .bare c ∈ segs → isPlain c = true) :
    Yields Expecting (segs.flatMap Segment.text) (some (segs.flatMap Segment.text)) :=
  ⟨.operand segs h, Passage.operand_readFrom h hne hplain, rfl, rfl⟩

namespace Yields

variable {S : Reader → Prop} {w w' : List Char} {k k' : Option (List Char)}

theorem opening (h : Yields Expecting w k) : Yields Opening w k := by
  obtain ⟨p, hread, hp⟩ := h
  exact ⟨p, hread.opening, hp⟩

theorem bracket (h : Yields Opening w k) :
    Yields Expecting ('(' :: w ++ [')']) (k.map fun s => '(' :: s ++ [')']) := by
  obtain ⟨p, hread, rfl, rfl⟩ := h
  refine ⟨p.bracket, Passage.bracket_readFrom hread, ?_, ?_⟩
  · simp [Passage.bracket, Segment.text]
  · cases hk : p.kept <;> simp [Passage.bracket, hk, Segment.text]

theorem join (h : Yields S w k) (h' : Yields Expecting w' k')
    (hS : k = none → ∀ σ, S σ → σ.done = none) (c : Connective) :
    Yields S (w ++ c.spaced.toList ++ w')
      (Option.merge (fun l r => l ++ c.spaced.toList ++ r) k k') := by
  obtain ⟨p, hread, rfl, rfl⟩ := h
  obtain ⟨q, hread', rfl, rfl⟩ := h'
  refine ⟨p.join c q, Passage.join_readFrom hread hread' (by simpa using hS) c, ?_, ?_⟩
  · simp [Passage.join, spacedSegments, text_map_bare]
  · cases hp : p.kept <;> cases hq : q.kept <;>
      simp [Passage.join, hp, hq, Option.merge, spacedSegments, text_map_bare]

end Yields

/-- A filter that is one passage is normalized to what is kept of it. -/
theorem normalizeChars_of_yields {w : List Char} {k : Option (List Char)} (h : Yields Opening w k) :
    normalizeChars w = k.getD [] := by
  obtain ⟨p, hread, rfl, rfl⟩ := h
  have hshield : shield (p.written.flatMap Segment.text) =
      ⟨slotted 0 p.written, literalsOf p.written⟩ := by
    rw [shield, if_neg p.closed_written.sentinel_not_mem, literals_eq,
      p.closed_written.canonical.segments_text]
  obtain ⟨ph, hcomplete, hrun⟩ := hread 0 start ⟨rfl, rfl⟩
  have hfinish : start.read (slotted 0 p.written) = some (slotted 0 (p.kept.getD [])) := by
    rw [Reader.read, hrun, Option.bind_some, finish_of_whole hcomplete.1 rfl]
    cases p.kept <;> rfl
  have hclosed : Closed (p.kept.getD []) := by
    cases hk : p.kept with
    | none => exact closed_nil
    | some segs => exact p.closed_kept segs hk
  have htext : start.read (shield (p.written.flatMap Segment.text)).text =
      some (slotted 0 (p.kept.getD [])) := by
    rw [hshield]
    exact hfinish
  rw [normalizeChars, settled_text_eq_of_read htext, hshield, ← p.literals_eq,
    restore_slotted hclosed.sentinel_not_mem]
  cases p.kept <;> rfl

end RecordFilter.Normal
