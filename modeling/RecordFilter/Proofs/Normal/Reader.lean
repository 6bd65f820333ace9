import RecordFilter.Proofs.Normal.Bracket

/-!
# Reading a filter

A *reader* goes over a shielded filter once, from left to right, and collects what the filter says:
operands and brackets that hold something, each behind the connective that was read last before it.
It gives up on a text that does not alternate operands and connectives, such as one with two
operands side by side. For each open bracket it keeps what it had collected before.

## Main statements

* `Reader.Below.read`: a reader that expects an operand reads whatever one behind a bracket reads.
* `Reader.balanced_of_read`: a text that can be read is balanced.
-/

namespace RecordFilter.Normal

open Text

/-- Where the reader stands: at the start of the text or of a bracket, inside an operand, right
behind a closing bracket, behind blanks, behind one mark or behind a connective. -/
inductive Phase
  | fresh
  | word
  | closed
  | gap
  | half (c : Connective)
  | joint (c : Connective)
  deriving DecidableEq

/-- What was collected before an open bracket, and the text that the bracket goes behind. -/
structure Frame where
  done : Option (List Char)
  front : List Char

/-- What is collected once the bracket is closed: a bracket that holds something joins what was
collected before it, an empty one does not. -/
def Frame.enclose (f : Frame) : Option (List Char) → Option (List Char)
  | none => f.done
  | some d => some (f.front ++ '(' :: d ++ [')'])

/-- What has been collected since the last open bracket, if anything, inside the frames of the open
brackets. -/
structure Reader where
  outer : List Frame
  done : Option (List Char)
  phase : Phase

namespace Reader

/-- The reader before it has read anything. -/
def start : Reader := ⟨[], none, .fresh⟩

/-- The text that the next operand goes behind: the first one stands alone. -/
def front (σ : Reader) : List Char :=
  match σ.done, σ.phase with
  | none, _ => []
  | some d, .joint c => d ++ c.spaced.toList
  | some d, _ => d

def blank (σ : Reader) : Option Reader :=
  match σ.phase with
  | .half _ => none
  | .joint _ => some σ
  | _ => some { σ with phase := .gap }

def openBracket (σ : Reader) : Option Reader :=
  match σ.phase with
  | .fresh | .joint _ => some ⟨⟨σ.done, σ.front⟩ :: σ.outer, none, .fresh⟩
  | _ => none

def closeBracket (σ : Reader) : Option Reader :=
  match σ.phase, σ.outer with
  | .gap, _ | .half _, _ | _, [] => none
  | _, f :: outer => some ⟨outer, f.enclose σ.done, .closed⟩

def mark (σ : Reader) (c : Connective) : Option Reader :=
  match σ.phase with
  | .half c' => if c' = c then some { σ with phase := .joint c } else none
  | _ => some { σ with phase := .half c }

def operand (σ : Reader) (x : Char) : Option Reader :=
  match σ.phase with
  | .fresh | .word | .joint _ => some { σ with done := some (σ.front ++ [x]), phase := .word }
  | _ => none

def step (σ : Reader) (x : Char) : Option Reader :=
  if isBlank x then σ.blank
  else if x = '(' then σ.openBracket
  else if x = ')' then σ.closeBracket
  else if x = Connective.and.mark then σ.mark .and
  else if x = Connective.or.mark then σ.mark .or
  else σ.operand x

def run : Reader → List Char → Option Reader
  | σ, [] => some σ
  | σ, x :: s => (σ.step x).bind fun σ' => run σ' s

/-- What was collected, at the end of the text. -/
def finish (σ : Reader) : Option (List Char) :=
  match σ.outer, σ.phase with
  | _ :: _, _ | _, .half _ => none
  | [], _ => some (σ.done.getD [])

/-- What the reader collects from the rest of the text, if it can be read. -/
def read (σ : Reader) (s : List Char) : Option (List Char) := (σ.run s).bind finish

/-! ## Steps -/

variable {σ τ σ' : Reader} {s : List Char} {x : Char}

theorem step_blank (hx : isBlank x = true) : σ.step x = σ.blank := by simp [step, hx]

@[simp] theorem step_open : σ.step '(' = σ.openBracket := by simp [step]

@[simp] theorem step_close : σ.step ')' = σ.closeBracket := by simp [step]

@[simp] theorem step_mark (c : Connective) : σ.step c.mark = σ.mark c := by
  have hne : Connective.or.mark ≠ Connective.and.mark := by decide
  cases c <;> simp [step, hne]

theorem step_operand (hx : isPlain x = true) : σ.step x = σ.operand x := by
  have hblank := isBlank_of_isPlain hx
  have hopen : x ≠ '(' := by rintro rfl; simp at hx
  have hclose : x ≠ ')' := by rintro rfl; simp at hx
  have hand : x ≠ Connective.and.mark := by rintro rfl; simp at hx
  have hor : x ≠ Connective.or.mark := by rintro rfl; simp at hx
  simp [step, hblank, hopen, hclose, hand, hor]

/-- The kinds of characters that the reader tells apart. -/
theorem kind_cases (x : Char) : isBlank x = true ∨ x = '(' ∨ x = ')' ∨
    (∃ c : Connective, x = c.mark) ∨ isPlain x = true := by
  cases hplain : isPlain x with
  | true => simp
  | false =>
    simp only [isPlain, isMark, Bool.not_eq_false', Bool.or_eq_true, beq_iff_eq] at hplain
    rcases hplain with ((hblank | hopen) | hclose) | (hand | hor)
    · exact .inl hblank
    · exact .inr (.inl hopen)
    · exact .inr (.inr (.inl hclose))
    · exact .inr (.inr (.inr (.inl ⟨.and, hand⟩)))
    · exact .inr (.inr (.inr (.inl ⟨.or, hor⟩)))

/-- The reader does not stand between the two marks of a connective. -/
def Whole (σ : Reader) : Prop := ∀ c, σ.phase ≠ .half c

/-- The next thing that the reader can read is an operand or an opening bracket. -/
def Expecting (σ : Reader) : Prop := σ.phase = .fresh ∨ ∃ c, σ.phase = .joint c

/-- The reader behind a connective. -/
def joined (σ : Reader) (c : Connective) : Reader := { σ with phase := .joint c }

theorem whole_joined (c : Connective) : (σ.joined c).Whole := by
  intro c' h
  cases h

theorem Expecting.whole (h : σ.Expecting) : σ.Whole := by
  intro c hc
  rw [Expecting, hc] at h
  simp at h

theorem whole_or_half (σ : Reader) : σ.Whole ∨ ∃ c, σ.phase = .half c := by
  obtain ⟨outer, done, ph⟩ := σ
  cases ph with
  | half c => exact .inr ⟨c, rfl⟩
  | _ => exact .inl fun c hc => by cases hc

theorem blank_eq_some (h : σ.blank = some σ') : σ.Whole ∧
    ∃ ph, (ph = .gap ∨ ∃ c, ph = .joint c) ∧ σ' = { σ with phase := ph } := by
  obtain ⟨outer, done, ph⟩ := σ
  cases ph with
  | half c => cases h
  | joint c =>
    cases h
    exact ⟨by simp [Whole], _, .inr ⟨c, rfl⟩, rfl⟩
  | _ =>
    cases h
    exact ⟨by simp [Whole], _, .inl rfl, rfl⟩

theorem openBracket_eq_some (h : σ.openBracket = some σ') :
    σ.Expecting ∧ σ' = ⟨⟨σ.done, σ.front⟩ :: σ.outer, none, .fresh⟩ := by
  obtain ⟨outer, done, ph⟩ := σ
  cases ph with
  | fresh =>
    cases h
    exact ⟨.inl rfl, rfl⟩
  | joint c =>
    cases h
    exact ⟨.inr ⟨c, rfl⟩, rfl⟩
  | _ => cases h

theorem closeBracket_eq_some (h : σ.closeBracket = some σ') : σ.Whole ∧ σ.phase ≠ .gap ∧
    ∃ f outer, σ.outer = f :: outer ∧ σ' = ⟨outer, f.enclose σ.done, .closed⟩ := by
  obtain ⟨outer, done, ph⟩ := σ
  cases outer with
  | nil => cases ph <;> cases h
  | cons f outer =>
    cases ph <;> cases h
    all_goals exact ⟨by simp [Whole], by simp, f, outer, rfl, rfl⟩

theorem phase_of_closeBracket (h : σ.closeBracket = some σ') : σ'.phase = .closed := by
  obtain ⟨-, -, f, outer, -, rfl⟩ := closeBracket_eq_some h
  rfl

theorem mark_eq_some {c : Connective} (h : σ.mark c = some σ') :
    σ.Whole ∧ σ' = { σ with phase := .half c } ∨ σ.phase = .half c ∧ σ' = σ.joined c := by
  obtain ⟨outer, done, ph⟩ := σ
  cases ph with
  | half d =>
    simp only [mark] at h
    split at h <;> cases h
    next hd => exact .inr ⟨congrArg _ hd, rfl⟩
  | _ =>
    cases h
    exact .inl ⟨by simp [Whole], rfl⟩

theorem operand_eq_some (h : σ.operand x = some σ') : (σ.Expecting ∨ σ.phase = .word) ∧
    σ' = { σ with done := some (σ.front ++ [x]), phase := .word } := by
  obtain ⟨outer, done, ph⟩ := σ
  cases ph with
  | fresh =>
    cases h
    exact ⟨.inl (.inl rfl), rfl⟩
  | joint c =>
    cases h
    exact ⟨.inl (.inr ⟨c, rfl⟩), rfl⟩
  | word =>
    cases h
    exact ⟨.inr rfl, rfl⟩
  | _ => cases h

/-- What a step can do. -/
inductive Stepped (σ : Reader) : Char → Reader → Prop
  | blank {x : Char} {ph : Phase} (hx : isBlank x = true) (hσ : σ.Whole)
      (hph : ph = .gap ∨ ∃ c, ph = .joint c) : Stepped σ x { σ with phase := ph }
  | openBracket (hσ : σ.Expecting) :
      Stepped σ '(' ⟨⟨σ.done, σ.front⟩ :: σ.outer, none, .fresh⟩
  | closeBracket {f : Frame} {outer : List Frame} (hσ : σ.Whole) (hgap : σ.phase ≠ .gap)
      (houter : σ.outer = f :: outer) : Stepped σ ')' ⟨outer, f.enclose σ.done, .closed⟩
  | firstMark (c : Connective) (hσ : σ.Whole) : Stepped σ c.mark { σ with phase := .half c }
  | secondMark {c : Connective} (hσ : σ.phase = .half c) : Stepped σ c.mark (σ.joined c)
  | operand {x : Char} (hx : isPlain x = true) (hσ : σ.Expecting ∨ σ.phase = .word) :
      Stepped σ x { σ with done := some (σ.front ++ [x]), phase := .word }

theorem stepped (h : σ.step x = some σ') : Stepped σ x σ' := by
  rcases kind_cases x with hx | rfl | rfl | ⟨c, rfl⟩ | hx
  · rw [step_blank hx] at h
    obtain ⟨hσ, ph, hph, rfl⟩ := blank_eq_some h
    exact .blank hx hσ hph
  · rw [step_open] at h
    obtain ⟨hσ, rfl⟩ := openBracket_eq_some h
    exact .openBracket hσ
  · rw [step_close] at h
    obtain ⟨hσ, hgap, f, outer, houter, rfl⟩ := closeBracket_eq_some h
    exact .closeBracket hσ hgap houter
  · rw [step_mark] at h
    rcases mark_eq_some h with ⟨hσ, rfl⟩ | ⟨hσ, rfl⟩
    · exact .firstMark c hσ
    · exact .secondMark hσ
  · rw [step_operand hx] at h
    obtain ⟨hσ, rfl⟩ := operand_eq_some h
    exact .operand hx hσ

theorem run_append (σ : Reader) (u v : List Char) :
    σ.run (u ++ v) = (σ.run u).bind fun σ' => σ'.run v := by
  induction u generalizing σ with
  | nil => rfl
  | cons x u ih =>
    simp only [List.cons_append, run, Option.bind_assoc]
    exact congrArg _ (funext ih)

theorem read_cons : σ.read (x :: s) = (σ.step x).bind fun σ' => σ'.read s := by
  simp [read, run, Option.bind_assoc]

theorem read_append (σ : Reader) (u v : List Char) :
    σ.read (u ++ v) = (σ.run u).bind fun σ' => σ'.read v := by
  simp [read, run_append, Option.bind_assoc]

/-! ## Blanks and connectives -/

theorem Whole.exists_blank_eq (h : σ.Whole) :
    ∃ ph, σ.blank = some { σ with phase := ph } ∧ ({ σ with phase := ph } : Reader).Whole := by
  obtain ⟨outer, done, phase⟩ := σ
  cases phase with
  | half c => exact absurd rfl (h c)
  | joint c => exact ⟨.joint c, rfl, h⟩
  | _ => exact ⟨.gap, rfl, fun c hc => by cases hc⟩

theorem blank_blank (h : σ.blank = some σ') : σ'.blank = some σ' := by
  obtain ⟨outer, done, phase⟩ := σ
  cases phase <;> cases h <;> rfl

/-- Behind a blank, more blanks make no difference. -/
theorem run_blanks {b : List Char} (hb : Blanks b) (h : σ.blank = some σ) (s : List Char) :
    σ.run (b ++ s) = σ.run s := by
  induction b with
  | nil => rfl
  | cons x b ih =>
    rw [blanks_cons] at hb
    rw [List.cons_append, run, step_blank hb.1, h, Option.bind_some, ih hb.2]

theorem Whole.exists_run_blanks {b : List Char} (h : σ.Whole) (hb : Blanks b) :
    ∃ ph, ({ σ with phase := ph } : Reader).Whole ∧
      ∀ s, σ.run (b ++ s) = ({ σ with phase := ph } : Reader).run s := by
  cases b with
  | nil => exact ⟨σ.phase, h, fun _ => rfl⟩
  | cons x b =>
    rw [blanks_cons] at hb
    obtain ⟨ph, hblank, hwhole⟩ := h.exists_blank_eq
    refine ⟨ph, hwhole, fun s => ?_⟩
    rw [List.cons_append, run, step_blank hb.1, hblank, Option.bind_some,
      run_blanks hb.2 (blank_blank hblank)]

theorem Whole.run_mark_mark (h : σ.Whole) (c : Connective) (s : List Char) :
    σ.run (c.mark :: c.mark :: s) = (σ.joined c).run s := by
  obtain ⟨outer, done, phase⟩ := σ
  cases phase with
  | half c => exact absurd rfl (h c)
  | _ => simp [run, mark, joined]

/-- A connective is read with the blanks around it. -/
theorem Whole.run_connective {b b' : List Char} (h : σ.Whole) (hb : Blanks b) (hb' : Blanks b')
    (c : Connective) (s : List Char) :
    σ.run (b ++ c.mark :: c.mark :: (b' ++ s)) = (σ.joined c).run s := by
  obtain ⟨ph, hwhole, hrun⟩ := h.exists_run_blanks hb
  rw [hrun, hwhole.run_mark_mark]
  exact run_blanks hb' rfl s

/-- Between two marks, a connective can only be read as the second mark of one connective and the
first mark of another one. -/
theorem run_connective_of_half {c' : Connective} (h : σ.phase = .half c') {b : List Char}
    (hb : Blanks b) (c : Connective) (s : List Char) :
    σ.run (b ++ c.mark :: c.mark :: s) = if b = [] ∧ c' = c then σ.run s else none := by
  obtain ⟨outer, done, phase⟩ := σ
  subst h
  cases b with
  | nil =>
    by_cases hc : c' = c
    · simp [run, mark, hc]
    · simp [run, mark, hc]
  | cons x b => simp [run, step_blank (blanks_cons.1 hb).1, blank]

theorem read_congr {t : List Char} (h : σ.run s = τ.run t) : σ.read s = τ.read t := by
  rw [read, h, read]

theorem read_connective_of_half {c c' : Connective} {b r : List Char} (h : σ.phase = .half c')
    (hb : Blanks b) (hread : σ.read (b ++ c.mark :: c.mark :: s) = some r) :
    b = [] ∧ c = c' ∧ σ.read s = some r := by
  rw [read, run_connective_of_half h hb] at hread
  split at hread
  · next hbc => exact ⟨hbc.1, hbc.2.symm, hread⟩
  · cases hread

/-! ## Readers that can read more -/

/-- Two readers have collected the same, and the second one stands where the first one does, or it
expects an operand while the first one stands behind a bracket or a blank. -/
structure Below (σ τ : Reader) : Prop where
  outer : σ.outer = τ.outer
  done : σ.done = τ.done
  phase : σ.phase = τ.phase ∨ (σ.phase = .closed ∨ σ.phase = .gap) ∧ τ.Expecting

theorem Below.refl (σ : Reader) : Below σ σ := ⟨rfl, rfl, .inl rfl⟩

theorem Below.step (h : Below σ τ) (hstep : σ.step x = some σ') :
    ∃ τ', τ.step x = some τ' ∧ Below σ' τ' := by
  obtain ⟨outer, done, ph⟩ := σ
  obtain ⟨outer', done', ph'⟩ := τ
  obtain ⟨rfl, rfl, rfl | ⟨hph, hexp⟩⟩ := h
  · exact ⟨σ', hstep, .refl σ'⟩
  dsimp only [Expecting] at hph hexp
  rcases kind_cases x with hx | rfl | rfl | ⟨c, rfl⟩ | hx
  · rw [step_blank hx] at hstep ⊢
    rcases hph with rfl | rfl <;> rcases hexp with rfl | ⟨c, rfl⟩ <;> cases hstep
    all_goals first
      | exact ⟨_, rfl, .refl _⟩
      | exact ⟨_, rfl, rfl, rfl, .inr ⟨.inr rfl, .inr ⟨c, rfl⟩⟩⟩
  · rw [step_open] at hstep
    rcases hph with rfl | rfl <;> cases hstep
  · rw [step_close] at hstep ⊢
    rcases hph with rfl | rfl
    · refine ⟨σ', ?_, .refl σ'⟩
      rcases hexp with rfl | ⟨c, rfl⟩ <;> cases outer <;> exact hstep
    · cases hstep
  · rw [step_mark] at hstep ⊢
    refine ⟨σ', ?_, .refl σ'⟩
    rcases hph with rfl | rfl <;> rcases hexp with rfl | ⟨d, rfl⟩ <;> exact hstep
  · rw [step_operand hx] at hstep
    rcases hph with rfl | rfl <;> cases hstep

theorem Below.finish {r : List Char} (h : Below σ τ) (hread : σ.finish = some r) :
    τ.finish = some r := by
  obtain ⟨outer, done, ph⟩ := σ
  obtain ⟨outer', done', ph'⟩ := τ
  obtain ⟨rfl, rfl, rfl | ⟨hph, hexp⟩⟩ := h
  · exact hread
  dsimp only [Expecting] at hph hexp
  rcases hph with rfl | rfl <;> rcases hexp with rfl | ⟨c, rfl⟩ <;> cases outer <;> exact hread

theorem Below.read {r : List Char} (h : Below σ τ) (hread : σ.read s = some r) :
    τ.read s = some r := by
  induction s generalizing σ τ with
  | nil => exact h.finish hread
  | cons x s ih =>
    rw [read_cons] at hread ⊢
    obtain ⟨σ', hstep, hread⟩ := Option.bind_eq_some_iff.1 hread
    obtain ⟨τ', hstep', hbelow⟩ := h.step hstep
    rw [hstep', Option.bind_some]
    exact ih hbelow hread

/-- Before anything is collected, a connective makes no difference to what stands right behind it.
-/
theorem step_fresh_eq (outer : List Frame) (c : Connective) (hx : isBlank x = false) :
    Reader.step ⟨outer, none, .fresh⟩ x = Reader.step ⟨outer, none, .joint c⟩ x := by
  rcases kind_cases x with hx' | rfl | rfl | ⟨d, rfl⟩ | hx'
  · rw [hx] at hx'
    cases hx'
  · simp [openBracket, front]
  · rw [step_close, step_close]
    cases outer <;> rfl
  · simp [mark]
  · simp [step_operand hx', operand, front]

theorem read_fresh_eq (outer : List Frame) (c : Connective) (hs : Solid s) :
    Reader.read ⟨outer, none, .fresh⟩ s = Reader.read ⟨outer, none, .joint c⟩ s := by
  cases s with
  | nil => cases outer <;> rfl
  | cons x s => rw [read_cons, read_cons, step_fresh_eq outer c (solid_cons.1 hs)]

/-! ## Where a step leads -/

theorem isBlank_of_step_gap (h : σ.step x = some σ') (hgap : σ'.phase = .gap) :
    isBlank x = true := by
  cases stepped h with
  | blank hx => exact hx
  | _ => cases hgap

/-- Only a mark leads between two marks. -/
theorem eq_mark_of_step_half {c : Connective} (h : σ.step x = some σ')
    (hhalf : σ'.phase = .half c) : x = c.mark := by
  cases stepped h with
  | blank _ _ hph =>
    dsimp only at hhalf
    subst hhalf
    simp at hph
  | firstMark d =>
    cases hhalf
    rfl
  | _ => cases hhalf

/-- Only the same mark leads on from between two marks. -/
theorem eq_mark_of_half {c : Connective} (h : σ.step x = some σ') (hhalf : σ.phase = .half c) :
    x = c.mark := by
  cases stepped h with
  | blank _ hσ => exact absurd hhalf (hσ c)
  | openBracket hσ => exact absurd hhalf (hσ.whole c)
  | closeBracket hσ => exact absurd hhalf (hσ c)
  | firstMark _ hσ => exact absurd hhalf (hσ c)
  | secondMark hσ =>
    rw [hσ] at hhalf
    cases hhalf
    rfl
  | operand _ hσ =>
    rcases hσ with hσ | hσ
    · exact absurd hhalf (hσ.whole c)
    · rw [hσ] at hhalf
      cases hhalf

/-- A closing bracket may stand behind a connective wherever it may stand without it. -/
theorem closeBracket_joined (h : σ.Whole) (hgap : σ.phase ≠ .gap) (c : Connective) :
    (σ.joined c).closeBracket = σ.closeBracket := by
  obtain ⟨outer, done, ph⟩ := σ
  cases ph with
  | gap => exact absurd rfl hgap
  | half d => exact absurd rfl (h d)
  | _ => cases outer <;> rfl

/-! ## Depth -/

theorem depthAfter?_step (h : σ.step x = some σ') :
    depthAfter? σ.outer.length [x] = some σ'.outer.length := by
  cases stepped h with
  | blank hx => simp [depthAfter?_cons_blank hx]
  | openBracket => simp
  | closeBracket _ _ houter => simp [houter]
  | firstMark c => simp
  | secondMark hσ => simp [joined]
  | operand hx =>
    have hopen : x ≠ '(' := by rintro rfl; simp at hx
    have hclose : x ≠ ')' := by rintro rfl; simp at hx
    simp [depthAfter?, hopen, hclose]

theorem depthAfter?_run (h : σ.run s = some σ') :
    depthAfter? σ.outer.length s = some σ'.outer.length := by
  induction s generalizing σ with
  | nil =>
    cases h
    rfl
  | cons x s ih =>
    obtain ⟨τ, hstep, hrun⟩ := Option.bind_eq_some_iff.1 h
    rw [← List.singleton_append, depthAfter?_append, depthAfter?_step hstep, Option.bind_some,
      ih hrun]

/-- A text that can be read is balanced. -/
theorem balanced_of_read {r : List Char} (h : start.read s = some r) : Balanced s := by
  obtain ⟨σ, hrun, hfinish⟩ := Option.bind_eq_some_iff.1 h
  have hdepth := depthAfter?_run hrun
  obtain ⟨outer, done, ph⟩ := σ
  cases outer with
  | nil => exact hdepth
  | cons f outer => cases hfinish

end Reader

end RecordFilter.Normal
