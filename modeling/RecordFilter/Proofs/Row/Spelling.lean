import RecordFilter.Proofs.Condition

/-!
# Rows of pieces

What a builder writes is a row of *pieces*: conditions, connectives and brackets. The rules see the
shielded text of such a row, and while they work its connectives may have more or fewer blanks
around them than the builder put there. A text *spells* a row if it is the text of the row up to
these blanks, so that what the rules look for can be read off the row.

## Main statements

* `shield_rowText`: the shielded text of a row.
* `spells_shielded`: it spells the row.
* `Spells.ahead`: the first thing behind the blanks of a spelling is the first piece.
-/

namespace RecordFilter.Normal

open Text

/-! ## Operands -/

/-- A word, or a text between quotes that cannot be taken for a slot. -/
def IsLiteral (lit : List Char) : Prop :=
  OperandText lit ∨ ∃ t, lit = (Segment.literal t).text ∧ '"' ∉ t ∧ sentinel ∉ t

/-- A condition as it is written: a field name, the symbol of an operator and a literal. -/
def IsOperand (w : List Char) : Prop :=
  ∃ f lit, ∃ op : Operator, IsFieldName f ∧ IsLiteral lit ∧ w = f ++ op.symbol.toList ++ lit

theorem IsLiteral.exists_segments {front lit : List Char} (hfront : OperandText front)
    (hlit : IsLiteral lit) :
    ∃ segs, segments (front ++ lit) = front.map .bare ++ segs ∧ Closed (segments (front ++ lit)) ∧
      ∀ c, .bare c ∈ segments (front ++ lit) → isPlain c = true := by
  rcases hlit with hword | ⟨t, rfl, hquote, hsentinel⟩
  · have hclosed : Closed ((front ++ lit).map .bare) := (hfront.append hword).closed
    have hsegs := hclosed.canonical.segments_text
    rw [text_map_bare] at hsegs
    rw [hsegs]
    refine ⟨lit.map .bare, List.map_append, hclosed, fun c hc => ?_⟩
    exact (hfront.append hword c (by simpa using hc)).1
  · have hclosed : Closed (front.map .bare ++ [.literal t]) := by
      simp [hfront.closed, Segment.Closed, hquote, hsentinel]
    have hsegs := hclosed.canonical.segments_text
    rw [text_map_bare_append, List.flatMap_singleton] at hsegs
    rw [hsegs]
    refine ⟨[.literal t], rfl, hclosed, fun c hc => ?_⟩
    exact (hfront c (by simpa using hc)).1

theorem IsOperand.closed {w : List Char} (h : IsOperand w) : Closed (segments w) := by
  obtain ⟨f, lit, op, hf, hlit, rfl⟩ := h
  obtain ⟨-, -, hclosed, -⟩ :=
    hlit.exists_segments ((operandText_field hf).append (operandText_symbol op))
  exact hclosed

theorem IsOperand.isPlain {w : List Char} (h : IsOperand w) {n : Nat} {x : Char}
    (hx : x ∈ slotted n (segments w)) : isPlain x = true := by
  obtain ⟨f, lit, op, hf, hlit, rfl⟩ := h
  obtain ⟨-, -, -, hplain⟩ :=
    hlit.exists_segments ((operandText_field hf).append (operandText_symbol op))
  exact isPlain_of_mem_slotted hplain hx

/-- A shielded operand still starts a condition, whatever follows it. -/
theorem IsOperand.startsCondition {w : List Char} (h : IsOperand w) (n : Nat) (s : List Char) :
    StartsCondition (slotted n (segments w) ++ s) := by
  obtain ⟨f, lit, op, hf, hlit, rfl⟩ := h
  obtain ⟨segs, hsegs, -, -⟩ :=
    hlit.exists_segments ((operandText_field hf).append (operandText_symbol op))
  refine ⟨f, [], slotted n segs ++ s, op, hf, blanks_nil, ?_⟩
  rw [hsegs, slotted_map_bare_append]
  simp

/-! ## Pieces -/

inductive Piece
  /-- A condition, by its text. -/
  | operand (w : List Char)
  | joint (c : Connective)
  | opening
  | closing
  deriving DecidableEq

namespace Piece

/-- The piece as a builder writes it. -/
def text : Piece → List Char
  | operand w => w
  | joint c => c.spaced.toList
  | opening => ['(']
  | closing => [')']

/-- The piece without the blanks around it, in a shielded text whose next slot has the number. -/
def core (n : Nat) : Piece → List Char
  | operand w => slotted n (segments w)
  | joint c => [c.mark, c.mark]
  | opening => ['(']
  | closing => [')']

/-- How many slots the piece needs. -/
def slots : Piece → Nat
  | operand w => slotCount (segments w)
  | _ => 0

def isJoint : Piece → Bool
  | joint _ => true
  | _ => false

def Proper : Piece → Prop
  | operand w => IsOperand w
  | _ => True

theorem Proper.closed {p : Piece} (h : p.Proper) : Closed (segments p.text) := by
  cases p with
  | operand w => exact IsOperand.closed h
  | joint c => cases c <;> exact closed_map_bare (g := [_, _, _, _]).2 (by decide)
  | opening => exact closed_map_bare (g := ['(']).2 (by decide)
  | closing => exact closed_map_bare (g := [')']).2 (by decide)

/-- The core of a piece starts with a character that is not blank. -/
theorem Proper.exists_core_cons {p : Piece} (h : p.Proper) (n : Nat) :
    ∃ x u, p.core n = x :: u ∧ isBlank x = false := by
  cases p with
  | operand w =>
    obtain ⟨x, u, hx, hplain⟩ := (IsOperand.startsCondition h n []).exists_plain
    rw [List.append_nil] at hx
    exact ⟨x, u, hx, isBlank_of_isPlain hplain⟩
  | joint c => exact ⟨_, _, rfl, isBlank_mark c⟩
  | opening => exact ⟨_, _, rfl, isBlank_open⟩
  | closing => exact ⟨_, _, rfl, isBlank_close⟩

theorem Proper.skipBlanks_core {p : Piece} (h : p.Proper) {b : List Char} (hb : Blanks b) (n : Nat)
    (s : List Char) : skipBlanks (b ++ (p.core n ++ s)) = p.core n ++ s := by
  obtain ⟨x, u, hcore, hx⟩ := h.exists_core_cons n
  rw [skipBlanks_append hb, hcore, List.cons_append, skipBlanks_of_solid (solid_cons.2 hx)]

/-- The first character of the core tells the kinds of pieces apart. -/
theorem Proper.eq_of_core_append {p : Piece} (h : p.Proper) {n : Nat} {s r : List Char} {x : Char}
    (heq : p.core n ++ s = x :: r) :
    (isPlain x = true ∧ ∃ w, p = operand w) ∨
      (∃ c : Connective, x = c.mark ∧ p = joint c ∧ r = c.mark :: s) ∨
      (x = '(' ∧ p = opening ∧ r = s) ∨ (x = ')' ∧ p = closing ∧ r = s) := by
  cases p with
  | operand w =>
    obtain ⟨y, u, hy, hplain⟩ := (IsOperand.startsCondition h n s).exists_plain
    obtain ⟨rfl, -⟩ := List.cons.inj (hy.symm.trans heq)
    exact .inl ⟨hplain, w, rfl⟩
  | joint c =>
    obtain ⟨rfl, rfl⟩ := List.cons.inj heq
    exact .inr (.inl ⟨c, rfl, rfl, rfl⟩)
  | opening =>
    obtain ⟨rfl, rfl⟩ := List.cons.inj heq
    exact .inr (.inr (.inl ⟨rfl, rfl, rfl⟩))
  | closing =>
    obtain ⟨rfl, rfl⟩ := List.cons.inj heq
    exact .inr (.inr (.inr ⟨rfl, rfl, rfl⟩))

section
variable {p : Piece} (h : p.Proper) {b : List Char} (hb : Blanks b) {n : Nat} {s r : List Char}
include h hb

/-- An opening bracket in front is the piece. -/
theorem Proper.eq_opening (heq : b ++ (p.core n ++ s) = '(' :: r) : p = opening ∧ s = r := by
  rcases h.eq_of_core_append (eq_cons_of_blanks_append hb isBlank_open heq) with
    ⟨hplain, -⟩ | ⟨c, hc, -⟩ | ⟨-, hp, rfl⟩ | ⟨hclose, -⟩
  · simp at hplain
  · exact absurd hc.symm (mark_ne_open c)
  · exact ⟨hp, rfl⟩
  · exact absurd hclose (by decide)

/-- A closing bracket in front is the piece. -/
theorem Proper.eq_closing (heq : b ++ (p.core n ++ s) = ')' :: r) : p = closing ∧ s = r := by
  rcases h.eq_of_core_append (eq_cons_of_blanks_append hb isBlank_close heq) with
    ⟨hplain, -⟩ | ⟨c, hc, -⟩ | ⟨hopen, -⟩ | ⟨-, hp, rfl⟩
  · simp at hplain
  · exact absurd hc.symm (mark_ne_close c)
  · exact absurd hopen (by decide)
  · exact ⟨hp, rfl⟩

/-- A connective behind the blanks is the piece. -/
theorem Proper.eq_joint {c : Connective}
    (hahead : connectiveAhead? (b ++ (p.core n ++ s)) = some (c, r)) : p = joint c ∧ s = r := by
  have heq := Connective.read?_eq_some_iff.1 hahead
  rw [h.skipBlanks_core hb] at heq
  rcases h.eq_of_core_append heq with ⟨hplain, -⟩ | ⟨d, hd, hp, hr⟩ | ⟨hopen, -⟩ | ⟨hclose, -⟩
  · simp at hplain
  · obtain rfl : c = d := by revert hd; cases c <;> cases d <;> decide
    exact ⟨hp, (List.cons.inj hr).2.symm⟩
  · exact absurd hopen (mark_ne_open c)
  · exact absurd hclose (mark_ne_close c)

end

end Piece

/-! ## Texts of rows -/

def rowText (ps : List Piece) : List Char := ps.flatMap Piece.text

/-- The text of a row whose literals are put behind slots, the first of them with the number. -/
def shielded (n : Nat) (ps : List Piece) : List Char :=
  slotted n (ps.flatMap fun p => segments p.text)

@[simp] theorem rowText_cons (p : Piece) (ps : List Piece) :
    rowText (p :: ps) = p.text ++ rowText ps := rfl

@[simp] theorem rowText_append (ps qs : List Piece) :
    rowText (ps ++ qs) = rowText ps ++ rowText qs := List.flatMap_append

@[simp] theorem shielded_nil (n : Nat) : shielded n [] = [] := rfl

theorem shielded_operand (n : Nat) (w : List Char) (ps : List Piece) :
    shielded n (.operand w :: ps) =
      (Piece.operand w).core n ++ shielded (n + (Piece.operand w).slots) ps :=
  slotted_append n (segments w) _

theorem shielded_joint (n : Nat) (c : Connective) (ps : List Piece) :
    shielded n (.joint c :: ps) = ' ' :: c.mark :: c.mark :: ' ' :: shielded n ps := by
  have hsegs : segments c.spaced.toList = c.spaced.toList.map .bare := by cases c <;> rfl
  rw [shielded, List.flatMap_cons, Piece.text, hsegs, slotted_map_bare_append,
    Connective.toList_spaced]
  rfl

theorem shielded_opening (n : Nat) (ps : List Piece) :
    shielded n (.opening :: ps) = '(' :: shielded n ps := rfl

theorem shielded_closing (n : Nat) (ps : List Piece) :
    shielded n (.closing :: ps) = ')' :: shielded n ps := rfl

section
variable {ps : List Piece} (h : ∀ p ∈ ps, p.Proper)
include h

theorem closed_row : Closed (ps.flatMap fun p => segments p.text) := by
  intro seg hseg
  obtain ⟨p, hp, hseg⟩ := List.mem_flatMap.1 hseg
  exact (h p hp).closed seg hseg

omit h in
theorem text_row (ps : List Piece) :
    (ps.flatMap fun p => segments p.text).flatMap Segment.text = rowText ps := by
  rw [List.flatMap_assoc]
  simp only [text_segments]
  rfl

theorem segments_rowText : segments (rowText ps) = ps.flatMap fun p => segments p.text := by
  rw [← text_row, (closed_row h).canonical.segments_text]

theorem sentinel_not_mem_rowText : sentinel ∉ rowText ps := by
  rw [← text_row]
  exact (closed_row h).sentinel_not_mem

/-- Shielding the text of a row puts the literals of its operands behind slots. -/
theorem shield_rowText : shield (rowText ps) = ⟨shielded 0 ps, literals (rowText ps)⟩ := by
  rw [shield, if_neg (sentinel_not_mem_rowText h), segments_rowText h]
  rfl

/-- Filling the slots of a shielded row gives its text back. -/
theorem restore_shielded : restore (literals (rowText ps)) (shielded 0 ps) = rowText ps := by
  have hsentinel := sentinel_not_mem_rowText h
  rw [← text_row] at hsentinel
  rw [literals_eq, segments_rowText h, shielded, restore_slotted hsentinel, text_row]

end

/-! ## Spellings -/

/-- The blanks that may stand before a piece: behind a connective at least one, unless a closing
bracket follows, and elsewhere none, unless a connective follows. -/
structure Gap (after : Bool) (p : Piece) (b : List Char) : Prop where
  blanks : Blanks b
  some : after = true → p ≠ .closing → b ≠ []
  none : after = false → p.isJoint = false → b = []

/-- The text is that of the row up to the blanks around its connectives, with its literals behind
slots from the number on. The flag says whether a connective stands right before. -/
inductive Spells : Bool → Nat → List Piece → List Char → Prop
  | nil {after : Bool} {n : Nat} {b : List Char} (hb : Blanks b) (hnone : after = false → b = []) :
    Spells after n [] b
  | cons {after : Bool} {n : Nat} {p : Piece} {ps : List Piece} {b s : List Char} (hp : p.Proper)
    (hb : Gap after p b) (h : Spells p.isJoint (n + p.slots) ps s) :
    Spells after n (p :: ps) (b ++ (p.core n ++ s))

namespace Spells

variable {after : Bool} {n : Nat} {p : Piece} {ps : List Piece} {s b : List Char}

theorem proper (h : Spells after n ps s) : ∀ p ∈ ps, p.Proper := by
  induction h with
  | nil => simp
  | cons hp _ _ ih => simpa [hp] using ih

/-- Without the blanks in front, a spelling may stand where no connective is before it. -/
theorem strip (h : Spells after n ps s) : Spells false n ps (skipBlanks s) := by
  cases h with
  | nil hb _ =>
    rw [skipBlanks_eq_nil_iff.2 hb]
    exact .nil blanks_nil fun _ => rfl
  | cons hp hb h =>
    rw [hp.skipBlanks_core hb.blanks]
    exact .cons (b := []) hp ⟨blanks_nil, nofun, fun _ _ => rfl⟩ h

/-- Blanks may be put in front of a spelling behind a connective. -/
theorem prepend (h : Spells false n ps s) (hb : Blanks b) (hne : b ≠ []) :
    Spells true n ps (b ++ s) := by
  cases h with
  | nil hb' _ => exact .nil (fun x hx => (List.mem_append.1 hx).elim (hb x) (hb' x)) nofun
  | cons hp hb' h =>
    rw [← List.append_assoc]
    refine .cons hp ⟨fun x hx => (List.mem_append.1 hx).elim (hb x) (hb'.blanks x), ?_, nofun⟩ h
    exact fun _ _ => List.append_ne_nil_of_left_ne_nil hne _

/-- Behind the blanks of a spelling stands the core of the first piece. -/
theorem ahead (h : Spells after n ps s) : ps = [] ∧ skipBlanks s = [] ∨
    ∃ p qs t, ps = p :: qs ∧ p.Proper ∧ skipBlanks s = p.core n ++ t ∧
      Spells p.isJoint (n + p.slots) qs t := by
  cases h with
  | nil hb _ => exact .inl ⟨rfl, skipBlanks_eq_nil_iff.2 hb⟩
  | cons hp hb h => exact .inr ⟨_, _, _, rfl, hp, hp.skipBlanks_core hb.blanks _ _, h⟩

/-- Behind a connective, the next mark is not the first character. -/
theorem ne_mark_cons (h : Spells true n ps s) (c : Connective) (v : List Char) :
    s ≠ c.mark :: v := by
  intro heq
  cases h with
  | nil hb _ =>
    rw [← List.append_nil s] at heq
    cases eq_cons_of_blanks_append hb (isBlank_mark c) heq
  | @cons _ _ p _ b _ _ hb _ =>
    have hcore := eq_cons_of_blanks_append hb.blanks (isBlank_mark c) heq
    have hnil : b = [] := List.append_cancel_right (heq.trans hcore.symm : _ ++ _ = [] ++ _)
    have hp : p = .closing := Classical.byContradiction fun hp => hb.some rfl hp hnil
    subst hp
    exact mark_ne_close c (List.cons.inj hcore).1.symm

/-- A closing bracket behind the blanks is the first piece. -/
theorem eq_closing_cons (h : Spells after n ps s) {v : List Char} (hv : skipBlanks s = ')' :: v) :
    ∃ qs, ps = .closing :: qs ∧ Spells false n qs v := by
  rcases h.ahead with ⟨-, hnil⟩ | ⟨p, qs, t, rfl, hp, hcore, ht⟩
  · simp [hv] at hnil
  obtain ⟨rfl, rfl⟩ := hp.eq_closing blanks_nil (hcore.symm.trans hv)
  exact ⟨qs, rfl, ht⟩

/-- A connective behind the blanks is the first piece. -/
theorem eq_joint_cons (h : Spells after n ps s) {c : Connective} {v : List Char}
    (hv : connectiveAhead? s = some (c, v)) : ∃ qs, ps = .joint c :: qs ∧ Spells true n qs v := by
  rw [connectiveAhead?] at hv
  rcases h.ahead with ⟨-, hnil⟩ | ⟨p, qs, t, rfl, hp, hcore, ht⟩
  · rw [hnil] at hv
    cases hv
  rw [hcore, ← hp.skipBlanks_core blanks_nil] at hv
  obtain ⟨rfl, rfl⟩ := hp.eq_joint blanks_nil hv
  exact ⟨qs, rfl, ht⟩

/-- A condition behind the blanks is the first piece. -/
theorem eq_operand_cons (h : Spells after n ps s) (hs : StartsCondition (skipBlanks s)) :
    ∃ w qs, ps = .operand w :: qs := by
  obtain ⟨x, r, hx, hplain⟩ := hs.exists_plain
  rcases h.ahead with ⟨-, hnil⟩ | ⟨p, qs, t, rfl, hp, hcore, -⟩
  · simp [hx] at hnil
  rcases hp.eq_of_core_append (hcore.symm.trans hx) with
    ⟨-, w, rfl⟩ | ⟨c, rfl, -⟩ | ⟨rfl, -⟩ | ⟨rfl, -⟩
  · exact ⟨w, qs, rfl⟩
  · simp at hplain
  · simp at hplain
  · simp at hplain

end Spells

/-- A shielded row spells itself; behind a connective it does so with a space in front. -/
theorem spells_shielded {ps : List Piece} (h : ∀ p ∈ ps, p.Proper) (n : Nat) :
    Spells false n ps (shielded n ps) ∧ Spells true n ps (' ' :: shielded n ps) := by
  have hspace : Blanks [' '] := by simp
  suffices hspells : Spells false n ps (shielded n ps) from
    ⟨hspells, hspells.prepend hspace (by simp)⟩
  induction ps generalizing n with
  | nil => exact .nil blanks_nil fun _ => rfl
  | cons p ps ih =>
    have hp : p.Proper := h p (by simp)
    have htail := ih fun q hq => h q (by simp [hq])
    have hgap : Gap false p [] := ⟨blanks_nil, nofun, fun _ _ => rfl⟩
    cases p with
    | operand w =>
      rw [shielded_operand]
      exact .cons (b := []) hp hgap (htail _)
    | joint c =>
      rw [shielded_joint]
      exact .cons (b := [' ']) hp ⟨hspace, nofun, nofun⟩ ((htail n).prepend hspace (by simp))
    | opening => exact .cons (b := []) hp hgap (htail n)
    | closing => exact .cons (b := []) hp hgap (htail n)

end RecordFilter.Normal
