import Mathlib.Data.List.Chain
import RecordFilter.Proofs.Row.Kept

/-!
# Expressions among rows

The text of an *expression* is a row of terms with a connective between each and the next, where a
term is a condition or an expression in brackets. What is kept of a row in which a connective stands
between any two operands falls short of one in a single respect: a bracket may follow a term without
a connective between them. The connective that was meant to stand there was written inside the
bracket or before a closing one, and it went with the others that stand beside a bracket.

## Main statements

* `Collector.Sound.run_sweep`: what has been collected of such a row is an expression at every
  level.
* `shows_kept`: so is what is kept of it; if every bracket is opened behind a connective, no
  bracket follows a term without one.
-/

namespace RecordFilter.Normal

open Collector

mutual

/-- The text is a term, and these are its conditions in order. -/
inductive IsTerm (loose : Bool) : List (List Char) → List Char → Prop
  | condition {w : List Char} (h : IsOperand w) : IsTerm loose [w] w
  | bracket {ws : List (List Char)} {e : List Char} (h : IsExpr loose ws e) :
    IsTerm loose ws ('(' :: (e ++ [')']))

/-- The text is a row of terms with a connective between each and the next. In a *loose* expression,
a bracket needs none in front of it. -/
inductive IsExpr (loose : Bool) : List (List Char) → List Char → Prop
  | term {ws : List (List Char)} {t : List Char} (h : IsTerm loose ws t) : IsExpr loose ws t
  | more {ws ws' : List (List Char)} {e t : List Char} (he : IsExpr loose ws e) (c : Connective)
    (ht : IsTerm loose ws' t) : IsExpr loose (ws ++ ws') (e ++ c.spaced.toList ++ t)
  | beside {ws ws' : List (List Char)} {e t : List Char} (hloose : loose = true)
    (he : IsExpr loose ws e) (ht : IsExpr loose ws' t) :
    IsExpr loose (ws ++ ws') (e ++ '(' :: (t ++ [')']))

end

/-- The text is an expression with these conditions in this order; it is empty if there are none. -/
def Shows (loose : Bool) (ws : List (List Char)) (s : List Char) : Prop :=
  ws = [] ∧ s = [] ∨ IsExpr loose ws s

/-- A connective comes before the first operand of the row, if there is one. -/
def joined : List Piece → Bool
  | [] | .joint _ :: _ => true
  | .operand _ :: _ => false
  | .opening :: ps | .closing :: ps => joined ps

/-- A connective stands between each operand of the row and the next one. -/
def separated : List Piece → Bool
  | [] => true
  | .operand _ :: ps => joined ps && separated ps
  | .joint _ :: ps | .opening :: ps | .closing :: ps => separated ps

/-- Every bracket of the row is opened at its start, or right behind a connective or another opening
bracket. -/
def Anchored (ps : List Piece) : Prop :=
  ps.IsChain fun p q => q = .opening → p = .opening ∨ p.isJoint = true

instance (ps : List Piece) : Decidable (Anchored ps) :=
  inferInstanceAs (Decidable (List.IsChain _ ps))

section
variable {p : Piece} {ps : List Piece}

theorem Anchored.tail (h : Anchored (p :: ps)) : Anchored ps := List.IsChain.tail h

theorem Anchored.head?_ne (h : Anchored (p :: ps)) (hopening : p ≠ .opening)
    (hjoint : p.isJoint = false) : ps.head? ≠ some .opening := by
  intro hhead
  rcases (List.isChain_cons.1 h).1 _ hhead rfl with hp | hp
  · exact hopening hp
  · simp [hp] at hjoint

end

/-! ## Brackets in strict expressions -/

/-- Outside of literals, a bracket is opened at the start, or behind a blank or another opening
bracket. -/
def Spread (segs : List Segment) : Prop :=
  segs.IsChain fun x y => y = .bare '(' → x = .bare '(' ∨ x = .bare ' '

instance (segs : List Segment) : Decidable (Spread segs) :=
  inferInstanceAs (Decidable (List.IsChain _ segs))

theorem Spread.append {segs segs' : List Segment} (h : Spread segs) (h' : Spread segs')
    (hlast : segs.getLast? = some (.bare '(') ∨ segs.getLast? = some (.bare ' ') ∨
      segs'.head? ≠ some (.bare '(')) : Spread (segs ++ segs') := by
  refine List.isChain_append.2 ⟨h, h', ?_⟩
  rintro x hx y hy rfl
  rcases hlast with hlast | hlast | hhead
  · exact .inl (Option.some.inj (hx.symm.trans hlast))
  · exact .inr (Option.some.inj (hx.symm.trans hlast))
  · exact absurd hy hhead

theorem IsOperand.spread {w : List Char} (h : IsOperand w) : Spread (segments w) := by
  obtain ⟨f, lit, op, hf, hlit, rfl⟩ := h
  obtain ⟨-, -, -, hplain⟩ :=
    hlit.exists_segments ((operandText_field hf).append (operandText_symbol op))
  refine List.isChain_iff_forall_rel_of_append_cons_cons.2 ?_
  rintro x y u v heq rfl
  rw [heq] at hplain
  have hopen := hplain '(' (by simp)
  simp at hopen

mutual

theorem IsTerm.exists_spread {ws : List (List Char)} {t : List Char} (h : IsTerm false ws t) :
    ∃ segs, Closed segs ∧ segs.flatMap Segment.text = t ∧ Spread segs := by
  match h with
  | .condition hw => exact ⟨segments t, hw.closed, text_segments t, hw.spread⟩
  | .bracket he =>
    obtain ⟨segs, hclosed, rfl, hspread⟩ := IsExpr.exists_spread he
    refine ⟨[.bare '('] ++ segs ++ [.bare ')'], ?_, by simp [Segment.text], ?_⟩
    · have hbrackets : Closed (['(', ')'].map .bare) := closed_map_bare.2 (by decide)
      simp_all
    · have hone : ∀ x, Spread [.bare x] := fun x => List.isChain_singleton _
      exact ((hone _).append hspread (.inl rfl)).append (hone _) (.inr (.inr (by simp)))

/-- The text of a strict expression is spread in this way. -/
theorem IsExpr.exists_spread {ws : List (List Char)} {e : List Char} (h : IsExpr false ws e) :
    ∃ segs, Closed segs ∧ segs.flatMap Segment.text = e ∧ Spread segs := by
  match h with
  | .term ht => exact IsTerm.exists_spread ht
  | .more he c ht =>
    obtain ⟨segs, hclosed, rfl, hspread⟩ := IsExpr.exists_spread he
    obtain ⟨segs', hclosed', rfl, hspread'⟩ := IsTerm.exists_spread ht
    refine ⟨segs ++ spacedSegments c ++ segs', ?_, ?_, ?_⟩
    · simp [hclosed, hclosed', closed_spacedSegments]
    · simp [spacedSegments, text_map_bare]
    · have hjoint : Spread (spacedSegments c) := by cases c <;> decide
      have hhead : (spacedSegments c).head? ≠ some (.bare '(') := by cases c <;> decide
      have hlast : (segs ++ spacedSegments c).getLast? = some (.bare ' ') := by
        cases c <;> simp [spacedSegments, Connective.toList_spaced]
      exact (hspread.append hjoint (.inr (.inr hhead))).append hspread' (.inr (.inl hlast))
  | .beside hloose _ _ => cases hloose

end

theorem IsExpr.spread {ws : List (List Char)} {e : List Char} (h : IsExpr false ws e) :
    Spread (segments e) := by
  obtain ⟨segs, hclosed, rfl, hspread⟩ := h.exists_spread
  rwa [hclosed.canonical.segments_text]

/-! ## Levels -/

namespace Level

variable {loose : Bool} {l inner : Level} {new : List Piece}

/-- What has been collected at the level is an expression, if anything is. -/
def Sound (loose : Bool) : Level → Prop
  | bare => True
  | holding done _ => IsExpr loose (operands done) (rowText done)

/-- The next piece at the level does not follow another one without a connective. -/
def Ready : Level → Prop
  | bare => True
  | holding _ joint => joint ≠ none

theorem Sound.connect (h : l.Sound loose) (c : Connective) : (l.connect c).Sound loose := by
  cases l with
  | bare => trivial
  | holding done joint => exact h

theorem ready_connect (l : Level) (c : Connective) : (l.connect c).Ready := by
  cases l <;> simp [Level.connect, Ready]

theorem Sound.attach (h : l.Sound loose) (hready : l.Ready)
    (hnew : IsTerm loose (operands new) (rowText new)) :
    (l.attach new).Sound loose := by
  cases l with
  | bare => exact .term hnew
  | holding done joint =>
    cases joint with
    | none => exact absurd rfl hready
    | some c =>
      have hmore := IsExpr.more (h : IsExpr loose (operands done) (rowText done)) c hnew
      simpa [Level.attach, Sound, pieces, joints, rowText, Piece.text, operands] using hmore

/-- A bracket is a term where it is closed, with or without a connective in front of it. -/
theorem Sound.enclose (h : l.Sound loose) (hready : l.Ready ∨ loose = true)
    (hinner : inner.Sound loose) : (l.enclose inner).Sound loose := by
  cases inner with
  | bare => exact h
  | holding inside joint =>
    have hterm : IsTerm loose (operands (.opening :: inside ++ [.closing]))
        (rowText (.opening :: inside ++ [.closing])) := by
      have hbracket := IsTerm.bracket (hinner : IsExpr loose (operands inside) (rowText inside))
      simpa [rowText, Piece.text, operands] using hbracket
    rcases l with _ | ⟨done, _ | c⟩
    · exact .term hterm
    · have hbeside := IsExpr.beside (hready.resolve_left (by simp [Ready]))
        (h : IsExpr loose (operands done) (rowText done)) hinner
      simpa [Level.enclose, Level.attach, Sound, pieces, joints, rowText, Piece.text, operands]
        using hbeside
    · exact h.attach (by simp [Ready]) hterm

end Level

/-! ## Collectors -/

namespace Collector

variable {loose : Bool} {σ : Collector} {p : Piece} {ps : List Piece}

/-- Expressions have been collected at all levels, and each bracket that is still open will be
accepted where it is closed. -/
structure Sound (loose : Bool) (σ : Collector) : Prop where
  inner : σ.inner.Sound loose
  outer : ∀ l ∈ σ.outer, l.Sound loose ∧ (l.Ready ∨ loose = true)

/-- The next operand will not follow another one without a connective. -/
def Awaits (σ : Collector) : Prop := σ.closed = true ∨ σ.inner.Ready

/-- What is to come of the row goes with what has been read: no operand and, in a strict expression,
no bracket will follow another term without a connective. -/
structure Accepts (loose : Bool) (σ : Collector) (ps : List Piece) : Prop where
  proper : ∀ p ∈ ps, p.Proper
  separated : separated ps = true
  awaits : σ.Awaits ∨ joined ps = true
  anchored : loose = true ∨ Anchored ps ∧ (σ.inner.Ready ∨ ps.head? ≠ some .opening)

theorem sound_start : start.Sound loose := ⟨trivial, by simp [start]⟩

theorem Sound.operand (h : σ.Sound loose) {w : List Char} (hw : IsOperand w) (hawaits : σ.Awaits) :
    (σ.step (.operand w)).Sound loose := by
  have hterm : IsTerm loose (operands [.operand w]) (rowText [.operand w]) := by
    simpa [rowText, Piece.text, operands] using IsTerm.condition hw
  refine ⟨?_, h.outer⟩
  cases hclosed : σ.closed with
  | true =>
    simpa [step, hclosed] using (h.inner.connect .and).attach (Level.ready_connect _ _) hterm
  | false =>
    have hready : σ.inner.Ready := hawaits.resolve_left (by simp [hclosed])
    simpa [step, hclosed] using h.inner.attach hready hterm

theorem Sound.opening (h : σ.Sound loose) (hready : σ.inner.Ready ∨ loose = true) :
    (σ.step .opening).Sound loose :=
  ⟨trivial, List.forall_mem_cons.2 ⟨⟨h.inner, hready⟩, h.outer⟩⟩

theorem Sound.closing (h : σ.Sound loose) : (σ.step .closing).Sound loose := by
  obtain ⟨outer, inner, closed⟩ := σ
  cases outer with
  | nil => exact h
  | cons l outer =>
    obtain ⟨⟨hl, hready⟩, houter⟩ := List.forall_mem_cons.1 h.outer
    exact ⟨hl.enclose hready h.inner, houter⟩

theorem Sound.step (h : σ.Sound loose) (haccepts : σ.Accepts loose (p :: ps)) :
    (σ.step p).Sound loose := by
  cases p with
  | operand w =>
    have hawaits : σ.Awaits := haccepts.awaits.resolve_right (by simp [joined])
    exact h.operand (haccepts.proper (.operand w) (by simp)) hawaits
  | joint c => exact ⟨h.inner.connect c, h.outer⟩
  | opening =>
    refine h.opening ?_
    rcases haccepts.anchored with hloose | ⟨-, hready | hhead⟩
    · exact .inr hloose
    · exact .inl hready
    · exact absurd rfl hhead
  | closing => exact h.closing

/-- A closing bracket closes one that is open or is left out. -/
theorem Awaits.closing (σ : Collector) : (σ.step .closing).Awaits ∨ σ.step .closing = σ := by
  obtain ⟨outer, inner, closed⟩ := σ
  cases outer with
  | nil => exact .inr rfl
  | cons l outer => exact .inl (.inl rfl)

theorem Accepts.step (h : σ.Accepts loose (p :: ps)) : (σ.step p).Accepts loose ps := by
  have hproper := (List.forall_mem_cons.1 h.proper).2
  cases p with
  | operand w =>
    obtain ⟨hjoined, hseparated⟩ := Bool.and_eq_true_iff.1 h.separated
    refine ⟨hproper, hseparated, .inr hjoined, ?_⟩
    exact h.anchored.imp_right fun ⟨ha, _⟩ => ⟨ha.tail, .inr (ha.head?_ne nofun rfl)⟩
  | joint c =>
    have hready : (σ.step (.joint c)).inner.Ready := Level.ready_connect _ _
    refine ⟨hproper, h.separated, .inl (.inr hready), ?_⟩
    exact h.anchored.imp_right fun ⟨ha, _⟩ => ⟨ha.tail, .inl hready⟩
  | opening =>
    refine ⟨hproper, h.separated, .inl (.inr trivial), ?_⟩
    exact h.anchored.imp_right fun ⟨ha, _⟩ => ⟨ha.tail, .inl trivial⟩
  | closing =>
    refine ⟨hproper, h.separated, ?_, ?_⟩
    · rcases Awaits.closing σ with hclosing | hsame
      · exact .inl hclosing
      · rw [hsame]
        exact h.awaits
    · exact h.anchored.imp_right fun ⟨ha, _⟩ => ⟨ha.tail, .inr (ha.head?_ne nofun rfl)⟩

/-- Brackets with nothing between them do not count. -/
theorem Accepts.skip (h : σ.Accepts loose (.opening :: .closing :: ps)) : σ.Accepts loose ps where
  proper p hp := h.proper p (by simp [hp])
  separated := h.separated
  awaits := h.awaits
  anchored := h.anchored.imp_right fun ⟨ha, _⟩ =>
    ⟨ha.tail.tail, .inr (ha.tail.head?_ne nofun rfl)⟩

/-- Expressions are collected at all levels of a row that goes with what has been read. -/
theorem Sound.run_sweep (h : σ.Sound loose) (haccepts : σ.Accepts loose ps) :
    (σ.run (sweep emptyPair ps)).Sound loose := by
  induction ps using sweep_induction emptyPair generalizing σ with
  | nil => exact h
  | keep p ps hnone ih =>
    rw [sweep_cons_none hnone]
    exact ih (h.step haccepts) haccepts.step
  | write p ps new hnew ih =>
    obtain ⟨rfl, hhead, rfl⟩ := emptyPair_eq_some hnew
    obtain ⟨ps, rfl⟩ := List.head?_eq_some_iff.1 hhead
    rw [sweep_cons_some hnew]
    exact ih h haccepts.skip

/-- What is left once the open brackets are closed is an expression, if anything is left. -/
theorem Sound.finish (h : σ.Sound loose) :
    Shows loose (operands σ.finish) (rowText σ.finish) := by
  obtain ⟨outer, inner, closed⟩ := σ
  induction outer generalizing inner with
  | nil =>
    cases inner with
    | bare => exact .inl ⟨rfl, rfl⟩
    | holding done joint => exact .inr h.inner
  | cons l outer ih =>
    have hclosing := h.closing
    exact ih (l.enclose inner) ⟨hclosing.inner, hclosing.outer⟩

end Collector

/-- What is kept of a row with a connective between any two operands is an expression of these
operands. It is a strict one if every bracket is opened behind a connective. -/
theorem shows_kept {loose : Bool} {ps : List Piece} (hproper : ∀ p ∈ ps, p.Proper)
    (hseparated : separated ps = true) (hanchored : loose = true ∨ Anchored ps) :
    Shows loose (operands ps) (rowText (kept ps)) := by
  have haccepts : start.Accepts loose ps :=
    ⟨hproper, hseparated, .inl (.inr trivial), hanchored.imp_right fun ha => ⟨ha, .inl trivial⟩⟩
  obtain ⟨-, -, hoperands⟩ := settled_rowText hproper
  rw [← hoperands]
  exact (sound_start.run_sweep haccepts).finish

end RecordFilter.Normal
