import RecordFilter.Proofs.Condition
import RecordFilter.Proofs.Normal.Walk

/-!
# Texts that are alike

Two texts are *alike* if they hold the same characters between their blanks and if blanks stand in
the same places. In a *loose* reading, blanks beside a connective do not count; then every mark has
to be one half of a connective, so that both texts show the same connectives.

Whatever a pattern asks of the front of a text (a bracket, a connective or a condition behind any
blanks) has the same answer for texts that are alike, and what follows is alike again.

## Main statements

* `Alike.exists_char`, `Alike.exists_connective`: what stands first in both texts.
* `Alike.startsCondition`: a condition in front of both.
-/

namespace RecordFilter.Normal

open Text

/-! ## Tokens -/

/-- What stands between blanks: a character or, in a loose reading, a connective. -/
inductive Token
  | char (x : Char)
  | joint (c : Connective)

namespace Token

def text : Token → List Char
  | char x => [x]
  | joint c => [c.mark, c.mark]

def isJoint : Token → Bool
  | joint _ => true
  | char _ => false

/-- In a loose reading no mark is a character, and in a strict one nothing is a connective. -/
def Proper (loose : Bool) : Token → Prop
  | char x => isBlank x = false ∧ (loose = true → isMark x = false)
  | joint _ => loose = true

theorem Proper.isBlank {loose : Bool} {w : Token} (h : w.Proper loose) {x : Char}
    (hx : x ∈ w.text) : Text.isBlank x = false := by
  cases w with
  | char y =>
    obtain rfl : x = y := by simpa [text] using hx
    exact h.1
  | joint c =>
    obtain rfl : x = c.mark := by simpa [text] using hx
    exact isBlank_mark c

theorem Proper.skipBlanks_append {loose : Bool} {w : Token} (h : w.Proper loose) {b : List Char}
    (hb : Blanks b) (s : List Char) : skipBlanks (b ++ (w.text ++ s)) = w.text ++ s := by
  refine skipBlanks_append_of_solid hb ?_
  cases w with
  | char x => exact solid_cons.2 h.1
  | joint c => exact solid_cons.2 (isBlank_mark c)

end Token

/-! ## Gaps -/

/-- Two runs of blanks that count as the same: if blanks are not free, both are empty or none is. -/
structure Gaps (free : Bool) (b b' : List Char) : Prop where
  first : Blanks b
  second : Blanks b'
  same : free = true ∨ (b = [] ↔ b' = [])

namespace Gaps

variable {free free' : Bool} {b b' c c' : List Char}

theorem refl (free : Bool) (hb : Blanks b) : Gaps free b b := ⟨hb, hb, .inr Iff.rfl⟩

theorem symm (h : Gaps free b b') : Gaps free b' b := ⟨h.second, h.first, h.same.imp_right Iff.symm⟩

theorem mono (h : Gaps free b b') (hfree : free = true → free' = true) : Gaps free' b b' :=
  ⟨h.first, h.second, h.same.imp_left hfree⟩

theorem append (h : Gaps free b b') (h' : Gaps free c c') : Gaps free (b ++ c) (b' ++ c') where
  first := List.forall_mem_append.2 ⟨h.first, h'.first⟩
  second := List.forall_mem_append.2 ⟨h.second, h'.second⟩
  same := by
    rcases h.same with hfree | hsame
    · exact .inl hfree
    · exact h'.same.imp_right fun hsame' => by simp [hsame, hsame']

theorem eq_nil (h : Gaps false [] b) : b = [] := by simpa using h.same

end Gaps

/-! ## Alike -/

/-- The texts show the same tokens with gaps that count as the same. Behind a connective (`after`)
and in front of one, blanks are free. -/
inductive Alike (loose : Bool) : Bool → List Char → List Char → Prop
  | nil {after : Bool} {b b' : List Char} (hb : Gaps after b b') : Alike loose after b b'
  | cons {after : Bool} {w : Token} {b b' s t : List Char} (hw : w.Proper loose)
      (hb : Gaps (after || w.isJoint) b b') (h : Alike loose w.isJoint s t) :
      Alike loose after (b ++ (w.text ++ s)) (b' ++ (w.text ++ t))

namespace Alike

variable {loose after : Bool} {b b' r s t : List Char} {x : Char}

theorem char (hblank : isBlank x = false) (hx : loose = true → isMark x = false)
    (hb : Gaps after b b') (h : Alike loose false s t) :
    Alike loose after (b ++ x :: s) (b' ++ x :: t) :=
  cons (w := .char x) ⟨hblank, hx⟩ (hb.mono fun hafter => by simp [hafter]) h

theorem keep (hblank : isBlank x = false) (hx : loose = true → isMark x = false)
    (h : Alike loose false s t) : Alike loose after (x :: s) (x :: t) :=
  char (b := []) hblank hx (.refl after blanks_nil) h

/-- A connective is one token in a loose reading and two in a strict one. -/
theorem connective (c : Connective) (hb : Gaps (after || loose) b b')
    (h : Alike loose loose s t) :
    Alike loose after (b ++ c.mark :: c.mark :: s) (b' ++ c.mark :: c.mark :: t) := by
  cases loose with
  | true => exact cons (w := .joint c) rfl hb h
  | false =>
    have hnone : Gaps false [] [] := .refl false blanks_nil
    refine char (isBlank_mark c) nofun (hb.mono fun hafter => by simpa using hafter) ?_
    exact char (isBlank_mark c) (by simp) hnone h

theorem symm (h : Alike loose after s t) : Alike loose after t s := by
  induction h with
  | nil hb => exact nil hb.symm
  | cons hw hb _ ih => exact cons hw hb.symm ih

theorem prepend (hb : Gaps after b b') (h : Alike loose false s t) :
    Alike loose after (b ++ s) (b' ++ t) := by
  cases h with
  | nil hc => exact nil (hb.append (hc.mono nofun))
  | @cons _ w c c' s t hw hc h =>
    rw [← List.append_assoc b c, ← List.append_assoc b' c']
    have hb' : Gaps (after || w.isJoint) b b' := hb.mono fun hafter => by simp [hafter]
    exact cons hw (hb'.append (hc.mono fun hjoint => by simpa using .inr hjoint)) h

/-- A connective as the rules write it. -/
theorem spaced (c : Connective) (h : Alike loose false s t) :
    Alike loose after (' ' :: c.mark :: c.mark :: ' ' :: s)
      (' ' :: c.mark :: c.mark :: ' ' :: t) := by
  have hspace : Blanks [' '] := by simp
  exact connective (b := [' ']) c (.refl _ hspace) (h.prepend (.refl loose hspace))

/-- What stands behind the blanks. -/
theorem ahead (h : Alike loose after s t) : skipBlanks s = [] ∧ skipBlanks t = [] ∨
    ∃ (w : Token) (s' t' : List Char), w.Proper loose ∧ skipBlanks s = w.text ++ s' ∧
      skipBlanks t = w.text ++ t' ∧ Alike loose w.isJoint s' t' := by
  cases h with
  | nil hb => exact .inl ⟨skipBlanks_eq_nil_iff.2 hb.first, skipBlanks_eq_nil_iff.2 hb.second⟩
  | @cons _ w b b' s t hw hb h =>
    exact .inr ⟨w, s, t, hw, hw.skipBlanks_append hb.first s, hw.skipBlanks_append hb.second t, h⟩

theorem strip (h : Alike loose after s t) : Alike loose false (skipBlanks s) (skipBlanks t) := by
  rcases h.ahead with ⟨hs, ht⟩ | ⟨w, s', t', hw, hs, ht, h⟩
  · rw [hs, ht]
    exact nil (.refl false blanks_nil)
  · rw [hs, ht]
    have hnone : Gaps (false || w.isJoint) [] [] := .refl _ blanks_nil
    exact cons hw hnone h

theorem exists_char (hx : loose = true → isMark x = false) (h : Alike loose after s t)
    (hs : skipBlanks s = x :: r) : ∃ b b' r', Gaps after b b' ∧ s = b ++ x :: r ∧
      t = b' ++ x :: r' ∧ Alike loose false r r' := by
  cases h with
  | nil hb =>
    rw [skipBlanks_eq_nil_iff.2 hb.first] at hs
    cases hs
  | @cons _ w b b' s t hw hb h =>
    rw [hw.skipBlanks_append hb.first] at hs
    cases w with
    | char y =>
      obtain ⟨rfl, rfl⟩ := List.cons.inj hs
      exact ⟨b, b', t, hb.mono (by simp [Token.isJoint]), rfl, rfl, h⟩
    | joint c =>
      obtain ⟨rfl, -⟩ := List.cons.inj hs
      simpa using hx hw

theorem exists_cons (hblank : isBlank x = false) (hx : loose = true → isMark x = false)
    (h : Alike loose false (x :: s) t) : ∃ t', t = x :: t' ∧ Alike loose false s t' := by
  have hsolid : Solid (x :: s) := solid_cons.2 hblank
  obtain ⟨b, b', t', hb, hs, rfl, ht⟩ := h.exists_char hx hsolid
  obtain rfl : b = [] := by simpa using hs
  rw [hb.eq_nil]
  exact ⟨t', rfl, ht⟩

theorem exists_connective {c : Connective} (h : Alike loose after s t)
    (hs : connectiveAhead? s = some (c, r)) : ∃ b b' r', Gaps (after || loose) b b' ∧
      s = b ++ c.mark :: c.mark :: r ∧ t = b' ++ c.mark :: c.mark :: r' ∧
      Alike loose loose r r' := by
  have hskip : skipBlanks s = c.mark :: c.mark :: r := Connective.read?_eq_some_iff.1 hs
  cases loose with
  | false =>
    -- the two marks are characters, and no gap fits between them
    obtain ⟨b, b', r', hb, rfl, rfl, hr⟩ := h.exists_char (by simp) hskip
    obtain ⟨r', rfl, hr'⟩ := hr.exists_cons (isBlank_mark c) (by simp)
    exact ⟨b, b', r', hb.mono (by simp), rfl, rfl, hr'⟩
  | true =>
    cases h with
    | nil hb =>
      rw [skipBlanks_eq_nil_iff.2 hb.first] at hskip
      cases hskip
    | @cons _ w b b' s t hw hb h =>
      rw [hw.skipBlanks_append hb.first] at hskip
      cases w with
      | char y =>
        obtain ⟨rfl, -⟩ := List.cons.inj hskip
        simpa using hw.2 rfl
      | joint d =>
        obtain ⟨hmark, htail⟩ := List.cons.inj hskip
        obtain rfl := Connective.mark_injective hmark
        obtain ⟨-, rfl⟩ := List.cons.inj htail
        exact ⟨b, b', t, hb, rfl, rfl, h⟩

/-! ## Questions about the front of a text -/

theorem connectiveAhead? {c : Connective} (h : Alike loose after s t)
    (hs : connectiveAhead? s = some (c, r)) :
    ∃ r', Normal.connectiveAhead? t = some (c, r') ∧ Alike loose loose r r' := by
  obtain ⟨b, b', r', hb, -, rfl, hr⟩ := h.exists_connective hs
  exact ⟨r', connectiveAhead?_append hb.second c r', hr⟩

theorem connectiveAhead?_eq_none (h : Alike loose after s t)
    (hs : Normal.connectiveAhead? s = none) : Normal.connectiveAhead? t = none := by
  cases ht : Normal.connectiveAhead? t with
  | none => rfl
  | some cr =>
    obtain ⟨r', hr', -⟩ := h.symm.connectiveAhead? ht
    rw [hs] at hr'
    cases hr'

theorem skipBlanks_eq_cons (hx : isMark x = false) (h : Alike loose after s t)
    (hs : skipBlanks s = x :: r) : ∃ r', skipBlanks t = x :: r' ∧ Alike loose false r r' := by
  obtain ⟨r', hr', h⟩ := (hs ▸ h.strip).exists_cons
    (solid_cons.1 (hs ▸ solid_skipBlanks s)) fun _ => hx
  exact ⟨r', hr', h⟩

theorem skipBlanks_eq_nil (h : Alike loose after s t) (hs : skipBlanks s = []) :
    skipBlanks t = [] := by
  rcases h.ahead with ⟨-, ht⟩ | ⟨w, s', t', hw, hs', -⟩
  · exact ht
  · rw [hs] at hs'
    cases w <;> cases hs'

/-- In a loose reading, marks are not read across two connectives. -/
theorem connectiveAhead?_mark (h : Alike true after s t) (c : Connective) :
    Normal.connectiveAhead? (c.mark :: s) = none ∨ ∃ r, s = c.mark :: c.mark :: r := by
  cases hs : Normal.connectiveAhead? (c.mark :: s) with
  | none => exact .inl rfl
  | some dr =>
    obtain ⟨d, r⟩ := dr
    have hskip : skipBlanks (c.mark :: s) = d.mark :: d.mark :: r :=
      Connective.read?_eq_some_iff.1 hs
    rw [skipBlanks_of_solid (solid_cons.2 (isBlank_mark c))] at hskip
    obtain ⟨hmark, rfl⟩ := List.cons.inj hskip
    rcases h.ahead with ⟨hnil, -⟩ | ⟨w, s', t', hw, hs', -⟩
    · simp at hnil
    · rw [skipBlanks_of_solid (solid_cons.2 (isBlank_mark d))] at hs'
      cases w with
      | char y =>
        obtain ⟨rfl, -⟩ := List.cons.inj hs'
        simpa using hw.2 rfl
      | joint e =>
        obtain ⟨hmark', rfl⟩ := List.cons.inj hs'
        exact .inr ⟨s', by rw [hmark, hmark']; rfl⟩

theorem plain_append {u : List Char} (hu : ∀ y ∈ u, isPlain y = true)
    (h : Alike loose false (u ++ s) t) : ∃ t', t = u ++ t' ∧ Alike loose false s t' := by
  induction u generalizing t with
  | nil => exact ⟨t, rfl, h⟩
  | cons y u ih =>
    have hy := hu y (by simp)
    have hmark : isMark y = false := by
      simp only [isPlain, Bool.not_eq_true', Bool.or_eq_false_iff] at hy
      exact hy.2
    obtain ⟨t, rfl, ht⟩ := h.exists_cons (isBlank_of_isPlain hy) fun _ => hmark
    obtain ⟨t, rfl, ht'⟩ := ih (fun z hz => hu z (by simp [hz])) ht
    exact ⟨t, rfl, ht'⟩

/-- The blanks between the field and the operator may differ. -/
theorem startsCondition (h : Alike loose after s t) (hs : StartsCondition (skipBlanks s)) :
    StartsCondition (skipBlanks t) := by
  obtain ⟨f, b, v, op, hf, hb, hskip⟩ := hs
  have hstrip := h.strip
  rw [hskip, List.append_assoc, List.append_assoc] at hstrip
  obtain ⟨t', ht', hrest⟩ := hstrip.plain_append fun y hy => (operandText_field hf y hy).1
  obtain ⟨x, w, hop, -, hx⟩ := exists_symbol_eq_cons op
  have hsolid : skipBlanks (b ++ (op.symbol.toList ++ v)) = op.symbol.toList ++ v :=
    skipBlanks_append_of_solid hb (by simp [hop, hx])
  have hstrip' := hrest.strip
  rw [hsolid] at hstrip'
  obtain ⟨v', hv', -⟩ := hstrip'.plain_append fun y hy => (operandText_symbol op y hy).1
  obtain ⟨b', hb', hblanks⟩ := exists_blanks_skipBlanks t'
  exact ⟨f, b', v', op, hf, hb', by rw [ht', hblanks, hv']; simp⟩

end Alike

end RecordFilter.Normal
