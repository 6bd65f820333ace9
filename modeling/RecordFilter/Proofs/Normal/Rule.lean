import Mathlib.Logic.Function.Defs
import RecordFilter.Normal.Rule
import RecordFilter.Proofs.Text.Blank
import RecordFilter.Proofs.Text.Replace

/-!
# What the clean-up rules look for

One statement for each pattern of `Normal.Rule`: it answers exactly for the texts of a certain shape
and with exactly that replacement. Later modules use these equivalences and do not open patterns.

## Main statements

* `emptyGroup_eq_some_iff`, ..., `blankRun_eq_some_iff` give the shapes of the nine rules.
* `startsCondition_iff` says that reading a field name greedily finds every condition that any other
  way of reading would find.
-/

namespace RecordFilter

/-- The character that a connective repeats. -/
def Connective.mark : Connective → Char
  | .and => '&'
  | .or => '|'

theorem Connective.mark_injective : Function.Injective Connective.mark := by
  intro c d h
  cases c <;> cases d <;> first | rfl | cases h

theorem Connective.toList_symbol (c : Connective) : c.symbol.toList = [c.mark, c.mark] := by
  cases c <;> rfl

theorem Connective.toList_spaced (c : Connective) :
    c.spaced.toList = [' ', c.mark, c.mark, ' '] := by
  cases c <;> decide

theorem Connective.read?_eq_some_iff {s r : List Char} {c : Connective} :
    Connective.read? s = some (c, r) ↔ s = c.mark :: c.mark :: r := by
  rw [Connective.read?_eq_some, Connective.toList_symbol]
  rfl

theorem Connective.read?_cons (c : Connective) (r : List Char) :
    Connective.read? (c.mark :: c.mark :: r) = some (c, r) := Connective.read?_eq_some_iff.2 rfl

namespace Text

@[simp] theorem isBlank_space : isBlank ' ' = true := by decide

@[simp] theorem isBlank_open : isBlank '(' = false := by decide

@[simp] theorem isBlank_close : isBlank ')' = false := by decide

@[simp] theorem isBlank_mark (c : Connective) : isBlank c.mark = false := by cases c <;> decide

end Text

namespace Normal

open Text

/-! ## Connectives and brackets -/

theorem connectiveAhead?_eq_some_iff {s r : List Char} {c : Connective} :
    connectiveAhead? s = some (c, r) ↔ ∃ b, Blanks b ∧ s = b ++ c.mark :: c.mark :: r := by
  unfold connectiveAhead?
  rw [Connective.read?_eq_some_iff, skipBlanks_eq_iff]
  simp

theorem connectiveAhead?_append {b : List Char} (hb : Blanks b) (c : Connective) (r : List Char) :
    connectiveAhead? (b ++ c.mark :: c.mark :: r) = some (c, r) :=
  connectiveAhead?_eq_some_iff.2 ⟨b, hb, rfl⟩

theorem emptyGroup_eq_some_iff {s : List Char} {o : Occurrence} :
    emptyGroup s = some o ↔ o.new = [] ∧ ∃ b, Blanks b ∧ s = '(' :: b ++ ')' :: o.rest := by
  constructor
  · intro h
    unfold emptyGroup at h
    split at h
    · split at h
      · next s' rest hs =>
        obtain ⟨b, hb, -, rfl⟩ := skipBlanks_eq_iff.1 hs
        cases h
        exact ⟨rfl, b, hb, rfl⟩
      · cases h
    · cases h
  · rintro ⟨hnew, b, hb, rfl⟩
    have hskip := skipBlanks_append_of_solid (s := ')' :: o.rest) hb (by simp)
    simp [emptyGroup, hskip, ← hnew]

theorem connectiveBeforeClose_eq_some_iff {s : List Char} {o : Occurrence} :
    connectiveBeforeClose s = some o ↔ o.new = [')'] ∧ ∃ (c : Connective) (b b' : List Char),
      Blanks b ∧ Blanks b' ∧
      s = b ++ c.mark :: c.mark :: (b' ++ ')' :: o.rest) := by
  constructor
  · intro h
    unfold connectiveBeforeClose at h
    split at h
    · next c r hc =>
      obtain ⟨b, hb, rfl⟩ := connectiveAhead?_eq_some_iff.1 hc
      split at h
      · next rest hr =>
        obtain ⟨b', hb', -, rfl⟩ := skipBlanks_eq_iff.1 hr
        cases h
        exact ⟨rfl, c, b, b', hb, hb', rfl⟩
      · cases h
    · cases h
  · rintro ⟨hnew, c, b, b', hb, hb', rfl⟩
    have hahead := connectiveAhead?_append hb c (b' ++ ')' :: o.rest)
    have hskip := skipBlanks_append_of_solid (s := ')' :: o.rest) hb' (by simp)
    simp [connectiveBeforeClose, hahead, hskip, ← hnew]

theorem connectiveAfterOpen_eq_some_iff {s : List Char} {o : Occurrence} :
    connectiveAfterOpen s = some o ↔ o.new = ['('] ∧ Solid o.rest ∧
      ∃ (c : Connective) (b b' : List Char), Blanks b ∧ Blanks b' ∧
      s = '(' :: (b ++ c.mark :: c.mark :: (b' ++ o.rest)) := by
  constructor
  · intro h
    unfold connectiveAfterOpen at h
    split at h
    · obtain ⟨⟨c, r⟩, hc, rfl⟩ := Option.map_eq_some_iff.1 h
      obtain ⟨b, hb, rfl⟩ := connectiveAhead?_eq_some_iff.1 hc
      obtain ⟨b', hb', hr⟩ := exists_blanks_skipBlanks r
      exact ⟨rfl, solid_skipBlanks r, c, b, b', hb, hb', by rw [← hr]⟩
    · cases h
  · rintro ⟨hnew, hsolid, c, b, b', hb, hb', rfl⟩
    have hahead := connectiveAhead?_append hb c (b' ++ o.rest)
    simp [connectiveAfterOpen, hahead, skipBlanks_append_of_solid hb' hsolid, ← hnew]

theorem doubledConnective_eq_some_iff {s : List Char} {o : Occurrence} :
    doubledConnective s = some o ↔ ∃ (c d : Connective) (b : List Char),
      Blanks b ∧ o.new = [d.mark, d.mark] ∧
      s = c.mark :: c.mark :: (b ++ d.mark :: d.mark :: o.rest) := by
  constructor
  · intro h
    unfold doubledConnective at h
    split at h
    · next c r hc =>
      obtain rfl := Connective.read?_eq_some_iff.1 hc
      obtain ⟨⟨d, rest⟩, hd, rfl⟩ := Option.map_eq_some_iff.1 h
      obtain ⟨b, hb, rfl⟩ := connectiveAhead?_eq_some_iff.1 hd
      exact ⟨c, d, b, hb, d.toList_symbol, rfl⟩
    · cases h
  · rintro ⟨c, d, b, hb, hnew, rfl⟩
    have hread := c.read?_cons (b ++ d.mark :: d.mark :: o.rest)
    have hahead := connectiveAhead?_append hb d o.rest
    simp [doubledConnective, hread, hahead, Connective.toList_symbol, ← hnew]

theorem trailingConnective_eq_some_iff {s : List Char} {o : Occurrence} :
    trailingConnective s = some o ↔ o = ⟨[], []⟩ ∧ ∃ (c : Connective) (b b' : List Char),
      Blanks b ∧ Blanks b' ∧
      s = b ++ c.mark :: c.mark :: b' := by
  constructor
  · intro h
    unfold trailingConnective at h
    split at h
    · next c r hc =>
      obtain ⟨b, hb, rfl⟩ := connectiveAhead?_eq_some_iff.1 hc
      split at h
      · next hr =>
        cases h
        exact ⟨rfl, c, b, r, hb, skipBlanks_eq_nil_iff.1 hr, rfl⟩
      · cases h
    · cases h
  · rintro ⟨rfl, c, b, b', hb, hb', rfl⟩
    have hahead := connectiveAhead?_append hb c b'
    simp [trailingConnective, hahead, skipBlanks_eq_nil_iff.2 hb']

theorem looseConnective_eq_some_iff {s : List Char} {o : Occurrence} :
    looseConnective s = some o ↔ Solid o.rest ∧ ∃ (c : Connective) (b b' : List Char),
      Blanks b ∧ Blanks b' ∧
      o.new = [' ', c.mark, c.mark, ' '] ∧ s = b ++ c.mark :: c.mark :: (b' ++ o.rest) := by
  constructor
  · intro h
    unfold looseConnective at h
    obtain ⟨⟨c, r⟩, hc, rfl⟩ := Option.map_eq_some_iff.1 h
    obtain ⟨b, hb, rfl⟩ := connectiveAhead?_eq_some_iff.1 hc
    obtain ⟨b', hb', hr⟩ := exists_blanks_skipBlanks r
    exact ⟨solid_skipBlanks r, c, b, b', hb, hb', c.toList_spaced, by rw [← hr]⟩
  · rintro ⟨hsolid, c, b, b', hb, hb', hnew, rfl⟩
    have hahead := connectiveAhead?_append hb c (b' ++ o.rest)
    simp [looseConnective, hahead, skipBlanks_append_of_solid hb' hsolid, Connective.toList_spaced,
      ← hnew]

theorem blankRun_eq_some_iff {s : List Char} {o : Occurrence} :
    blankRun s = some o ↔ o.new = [' '] ∧ Solid o.rest ∧ ∃ x b, isBlank x = true ∧ Blanks b ∧
      s = x :: (b ++ o.rest) := by
  constructor
  · intro h
    unfold blankRun at h
    split at h
    · next x s =>
      split at h
      · next hx =>
        cases h
        obtain ⟨b, hb, hs⟩ := exists_blanks_skipBlanks s
        exact ⟨rfl, solid_skipBlanks s, x, b, hx, hb, by rw [← hs]⟩
      · cases h
    · cases h
  · rintro ⟨hnew, hsolid, x, b, hx, hb, rfl⟩
    simp [blankRun, hx, skipBlanks_append_of_solid hb hsolid, ← hnew]

/-- A connective that stands first is dropped with the blanks around it. -/
theorem dropLeadingConnective_cases (s : List Char) :
    connectiveAhead? s = none ∧ dropLeadingConnective s = s ∨
      ∃ (c : Connective) (b b' r : List Char), Blanks b ∧ Blanks b' ∧ Solid r ∧
        s = b ++ c.mark :: c.mark :: (b' ++ r) ∧ dropLeadingConnective s = r := by
  cases hc : connectiveAhead? s with
  | none => exact .inl ⟨rfl, by simp [dropLeadingConnective, hc]⟩
  | some cr =>
    obtain ⟨c, r⟩ := cr
    obtain ⟨b, hb, hs⟩ := connectiveAhead?_eq_some_iff.1 hc
    obtain ⟨b', hb', hr⟩ := exists_blanks_skipBlanks r
    refine .inr ⟨c, b, b', skipBlanks r, hb, hb', solid_skipBlanks r, ?_, ?_⟩
    · rw [← hr, hs]
    · simp [dropLeadingConnective, hc]

/-! ## Conditions -/

/-- A field name: a letter or an underscore, perhaps behind an at sign, and then any number of word
characters, points and colons. -/
def IsFieldName (f : List Char) : Prop :=
  ∃ x w, (f = x :: w ∨ f = '@' :: x :: w) ∧ isNameStart x = true ∧ ∀ y ∈ w, isFieldChar y = true

/-- A condition starts here: a field name, any blanks and the symbol of an operator. -/
def StartsCondition (s : List Char) : Prop :=
  ∃ f b v, ∃ op : Operator, IsFieldName f ∧ Blanks b ∧ s = f ++ b ++ op.symbol.toList ++ v

/-- A condition starts with a letter, an underscore or an at sign. -/
theorem StartsCondition.exists_cons {s : List Char} (h : StartsCondition s) :
    ∃ x r, s = x :: r ∧ (x = '@' ∨ isNameStart x = true) := by
  obtain ⟨f, b, v, op, ⟨x, w, rfl | rfl, hx, -⟩, -, rfl⟩ := h
  · exact ⟨x, w ++ b ++ op.symbol.toList ++ v, by simp, .inr hx⟩
  · exact ⟨'@', x :: w ++ b ++ op.symbol.toList ++ v, by simp, .inl rfl⟩

theorem StartsCondition.solid {s : List Char} (h : StartsCondition s) : Solid s := by
  obtain ⟨x, r, rfl, rfl | hx⟩ := h.exists_cons
  · exact solid_cons.2 (by decide)
  · exact solid_cons.2 (isBlank_of_isNameStart hx)

theorem startsText_iff {s : List Char} :
    Operator.startsText s = true ↔ ∃ v, ∃ op : Operator, s = op.symbol.toList ++ v := by
  simp only [Operator.startsText, List.any_eq_true, List.isPrefixOf_iff_prefix]
  constructor
  · rintro ⟨op, -, v, rfl⟩
    exact ⟨v, op, rfl⟩
  · rintro ⟨v, op, rfl⟩
    exact ⟨op, op.mem_all, v, rfl⟩

/-- The first character of an operator's symbol. -/
theorem exists_symbol_eq_cons (op : Operator) : ∃ x w, op.symbol.toList = x :: w ∧
    isFieldChar x = false ∧ isBlank x = false := by
  cases op <;> exact ⟨_, _, rfl, by decide +kernel, by decide +kernel⟩

theorem isFieldChar_of_isBlank {x : Char} (h : isBlank x = true) : isFieldChar x = false := by
  have hword := isWordChar_of_isBlank h
  have hdot : x ≠ '.' := by rintro rfl; revert h; decide
  have hcolon : x ≠ ':' := by rintro rfl; revert h; decide
  simp [isFieldChar, hword, hdot, hcolon]

/-- The field characters in front of an operator, with or without blanks between. -/
theorem dropWhile_isFieldChar_append {w b : List Char} (hw : ∀ y ∈ w, isFieldChar y = true)
    (hb : Blanks b) (op : Operator) (v : List Char) :
    (w ++ (b ++ op.symbol.toList ++ v)).dropWhile isFieldChar = b ++ op.symbol.toList ++ v := by
  rw [List.dropWhile_append_of_pos hw]
  cases b with
  | nil =>
    obtain ⟨x, u, hop, hx, -⟩ := exists_symbol_eq_cons op
    simp [hop, hx]
  | cons x b =>
    simp [isFieldChar_of_isBlank (blanks_cons.1 hb).1]

/-- What is read behind a field name is the end of the text behind all its field characters. -/
theorem afterField?_eq_some {s r : List Char} (h : afterField? s = some r) :
    ∃ f, IsFieldName f ∧ s = f ++ r := by
  unfold afterField? at h
  split at h
  · next x w =>
    split at h
    · next hx =>
      cases h
      exact ⟨'@' :: x :: w.takeWhile isFieldChar,
        ⟨x, _, .inr rfl, hx, List.all_eq_true.1 List.all_takeWhile⟩, by simp⟩
    · cases h
  · next x w _ =>
    split at h
    · next hx =>
      cases h
      exact ⟨x :: w.takeWhile isFieldChar,
        ⟨x, _, .inl rfl, hx, List.all_eq_true.1 List.all_takeWhile⟩, by simp⟩
    · cases h
  · cases h

theorem afterField?_cons {x : Char} (hx : isNameStart x = true) (s : List Char) :
    afterField? (x :: s) = some (s.dropWhile isFieldChar) := by
  have hat : x ≠ '@' := by rintro rfl; revert hx; decide
  unfold afterField?
  split
  · next heq => exact absurd (List.cons.inj heq).1 hat
  · next heq =>
    obtain ⟨rfl, rfl⟩ := List.cons.inj heq
    simp [hx]
  · next heq => cases heq

/-- Behind a field name comes the operator, with or without blanks between. -/
theorem afterField?_append {f b : List Char} (hf : IsFieldName f) (hb : Blanks b) (op : Operator)
    (v : List Char) :
    afterField? (f ++ b ++ op.symbol.toList ++ v) = some (b ++ op.symbol.toList ++ v) := by
  obtain ⟨x, w, hf, hx, hw⟩ := hf
  have hdrop := dropWhile_isFieldChar_append hw hb op v
  rcases hf with rfl | rfl
  · simpa [afterField?_cons hx] using hdrop
  · simpa [afterField?, hx] using hdrop

/-- Reading a field name greedily finds every condition that could be found. -/
theorem startsCondition_iff {s : List Char} : startsCondition s = true ↔ StartsCondition s := by
  constructor
  · intro h
    unfold startsCondition at h
    split at h
    · next rest hrest =>
      obtain ⟨f, hf, rfl⟩ := afterField?_eq_some hrest
      obtain ⟨v, op, hv⟩ := startsText_iff.1 h
      obtain ⟨b, hb, -, rfl⟩ := skipBlanks_eq_iff.1 hv
      exact ⟨f, b, v, op, hf, hb, by simp⟩
    · cases h
  · rintro ⟨f, b, v, op, hf, hb, rfl⟩
    have hafter := afterField?_append hf hb op v
    have hskip : skipBlanks (b ++ op.symbol.toList ++ v) = op.symbol.toList ++ v := by
      obtain ⟨y, u, hop, -, hy⟩ := exists_symbol_eq_cons op
      rw [List.append_assoc, skipBlanks_append_of_solid hb (by simp [hop, hy])]
    simp only [startsCondition, hafter, hskip, startsText_iff]
    exact ⟨v, op, rfl⟩

theorem closeBeforeCondition_eq_some_iff {s : List Char} {o : Occurrence} :
    closeBeforeCondition s = some o ↔
      o.new = [')', ' ', Connective.and.mark, Connective.and.mark, ' '] ∧ StartsCondition o.rest ∧
      ∃ b, Blanks b ∧ s = ')' :: (b ++ o.rest) := by
  constructor
  · intro h
    unfold closeBeforeCondition at h
    split at h
    · next s =>
      split at h
      · next hs =>
        cases h
        obtain ⟨b, hb, hskip⟩ := exists_blanks_skipBlanks s
        exact ⟨by simp [Connective.toList_spaced], startsCondition_iff.1 hs, b, hb,
          by rw [← hskip]⟩
      · cases h
    · cases h
  · rintro ⟨hnew, hcond, b, hb, rfl⟩
    have hskip := skipBlanks_append_of_solid hb hcond.solid
    simp [closeBeforeCondition, hskip, startsCondition_iff.2 hcond, Connective.toList_spaced,
      ← hnew]

/-! ## What occurrences cover -/

/-- The characters that connectives are made of. -/
def isMark (x : Char) : Bool := x == '&' || x == '|'

/-- The characters that are parts of operands: neither blanks nor brackets nor marks. -/
def isPlain (x : Char) : Bool := !(isBlank x || x == '(' || x == ')' || isMark x)

/-- A text of blanks, brackets and marks, which are never parts of an operand. -/
def Structural (u : List Char) : Prop := ∀ x ∈ u, isPlain x = false

@[simp] theorem isMark_mark (c : Connective) : isMark c.mark = true := by cases c <;> rfl

@[simp] theorem mark_ne_close (c : Connective) : c.mark ≠ ')' := by cases c <;> decide

@[simp] theorem mark_ne_open (c : Connective) : c.mark ≠ '(' := by cases c <;> decide

@[simp] theorem isPlain_mark (c : Connective) : isPlain c.mark = false := by simp [isPlain]

@[simp] theorem isPlain_open : isPlain '(' = false := by decide

@[simp] theorem isPlain_close : isPlain ')' = false := by decide

theorem isMark_of_isBlank {x : Char} (h : isBlank x = true) : isMark x = false := by
  have hand : x ≠ '&' := by rintro rfl; revert h; decide
  have hor : x ≠ '|' := by rintro rfl; revert h; decide
  simp [isMark, hand, hor]

@[simp] theorem isPlain_of_isBlank {x : Char} (h : isBlank x = true) : isPlain x = false := by
  simp [isPlain, h]

theorem isBlank_of_isPlain {x : Char} (h : isPlain x = true) : isBlank x = false := by
  cases hx : isBlank x with
  | false => rfl
  | true => simp [isPlain_of_isBlank hx] at h

theorem isPlain_of_isNameStart {x : Char} (h : isNameStart x = true) : isPlain x = true := by
  have hblank := isBlank_of_isNameStart h
  have hopen : x ≠ '(' := by rintro rfl; revert h; decide
  have hclose : x ≠ ')' := by rintro rfl; revert h; decide
  have hand : x ≠ '&' := by rintro rfl; revert h; decide
  have hor : x ≠ '|' := by rintro rfl; revert h; decide
  simp [isPlain, isMark, hblank, hopen, hclose, hand, hor]

/-- A condition starts with a part of an operand. -/
theorem StartsCondition.exists_plain {s : List Char} (h : StartsCondition s) :
    ∃ x r, s = x :: r ∧ isPlain x = true := by
  obtain ⟨x, r, rfl, rfl | hx⟩ := h.exists_cons
  · exact ⟨'@', r, rfl, by decide⟩
  · exact ⟨x, r, rfl, isPlain_of_isNameStart hx⟩

@[simp] theorem structural_nil : Structural [] := by simp [Structural]

@[simp] theorem structural_cons {x : Char} {u : List Char} :
    Structural (x :: u) ↔ isPlain x = false ∧ Structural u := by
  simp [Structural]

@[simp] theorem structural_append {u v : List Char} :
    Structural (u ++ v) ↔ Structural u ∧ Structural v := by
  simp [Structural, or_imp, forall_and]

theorem structural_of_blanks {b : List Char} (hb : Blanks b) : Structural b :=
  fun x hx => isPlain_of_isBlank (hb x hx)

/-- An occurrence of the pattern covers at least one character, and only structural ones, and so are
the characters written in its place. -/
def Covers (p : Pattern) : Prop :=
  ∀ s o, p s = some o → ∃ u, u ≠ [] ∧ s = u ++ o.rest ∧ Structural u ∧ Structural o.new

theorem Covers.consumes {p : Pattern} (h : Covers p) : Consumes p := by
  intro x s o ho
  obtain ⟨u, hne, hs, -, -⟩ := h _ o ho
  cases u with
  | nil => exact absurd rfl hne
  | cons y u => exact ⟨u, (List.cons.inj hs).2.symm⟩

theorem covers_emptyGroup : Covers emptyGroup := by
  intro s o ho
  obtain ⟨hnew, b, hb, rfl⟩ := emptyGroup_eq_some_iff.1 ho
  refine ⟨'(' :: b ++ [')'], by simp, by simp, ?_, by simp [hnew]⟩
  simp [structural_of_blanks hb]

theorem covers_connectiveBeforeClose : Covers connectiveBeforeClose := by
  intro s o ho
  obtain ⟨hnew, c, b, b', hb, hb', rfl⟩ := connectiveBeforeClose_eq_some_iff.1 ho
  refine ⟨b ++ c.mark :: c.mark :: (b' ++ [')']), by simp, by simp, ?_, by simp [hnew]⟩
  simp [structural_of_blanks hb, structural_of_blanks hb']

theorem covers_connectiveAfterOpen : Covers connectiveAfterOpen := by
  intro s o ho
  obtain ⟨hnew, -, c, b, b', hb, hb', rfl⟩ := connectiveAfterOpen_eq_some_iff.1 ho
  refine ⟨'(' :: (b ++ c.mark :: c.mark :: b'), by simp, by simp, ?_, by simp [hnew]⟩
  simp [structural_of_blanks hb, structural_of_blanks hb']

theorem covers_doubledConnective : Covers doubledConnective := by
  intro s o ho
  obtain ⟨c, d, b, hb, hnew, rfl⟩ := doubledConnective_eq_some_iff.1 ho
  refine ⟨c.mark :: c.mark :: (b ++ [d.mark, d.mark]), by simp, by simp, ?_, by simp [hnew]⟩
  simp [structural_of_blanks hb]

theorem covers_trailingConnective : Covers trailingConnective := by
  intro s o ho
  obtain ⟨rfl, c, b, b', hb, hb', rfl⟩ := trailingConnective_eq_some_iff.1 ho
  refine ⟨b ++ c.mark :: c.mark :: b', by simp, by simp, ?_, by simp⟩
  simp [structural_of_blanks hb, structural_of_blanks hb']

theorem covers_closeBeforeCondition : Covers closeBeforeCondition := by
  intro s o ho
  obtain ⟨hnew, -, b, hb, rfl⟩ := closeBeforeCondition_eq_some_iff.1 ho
  exact ⟨')' :: b, by simp, by simp, by simp [structural_of_blanks hb], by simp [hnew]⟩

theorem covers_looseConnective : Covers looseConnective := by
  intro s o ho
  obtain ⟨-, c, b, b', hb, hb', hnew, rfl⟩ := looseConnective_eq_some_iff.1 ho
  refine ⟨b ++ c.mark :: c.mark :: b', by simp, by simp, ?_, by simp [hnew]⟩
  simp [structural_of_blanks hb, structural_of_blanks hb']

theorem covers_blankRun : Covers blankRun := by
  intro s o ho
  obtain ⟨hnew, -, x, b, hx, hb, rfl⟩ := blankRun_eq_some_iff.1 ho
  exact ⟨x :: b, by simp, by simp, by simp [hx, structural_of_blanks hb], by simp [hnew]⟩

end Normal

end RecordFilter
