import RecordFilter.Condition
import RecordFilter.Proofs.Normal.Passage

/-!
# Conditions as passages

A condition on a proper field name is written as one operand: a field name and the symbol of an
operator hold no blank, bracket or mark, and the literal is a word or stands between quotes. It is
enough that the text of its value holds neither a quote nor the sentinel.

## Main statements

* `Condition.write_eq`: what is written for a condition is its text.
* `Condition.yields`: the text is kept.
-/

namespace RecordFilter

open Text RecordFilter.Normal RecordFilter.Normal.Reader

/-- If the value is present, it has a text that can stand in a literal and that cannot be taken for
a slot. -/
def Value.Writable (v : Value) : Prop :=
  v.isPresent = true → ∃ t, v.plain? = some t ∧ '"' ∉ t.toList ∧ sentinel ∉ t.toList

/-- The condition as it is shown: the field, the symbol of the operator and the literal of the
value; nothing if the value is absent. -/
def Condition.text (c : Condition) : Option String :=
  if c.isPresent then c.value.literal?.map fun lit => c.field ++ c.operator.symbol ++ lit else none

namespace Normal

/-- Characters that are parts of operands, but of no literal and no slot. -/
def OperandText (w : List Char) : Prop := ∀ x ∈ w, isPlain x = true ∧ x ≠ '"' ∧ x ≠ sentinel

instance (w : List Char) : Decidable (OperandText w) :=
  List.decidableBAll (fun x => isPlain x = true ∧ x ≠ '"' ∧ x ≠ sentinel) w

theorem OperandText.append {w w' : List Char} (h : OperandText w) (h' : OperandText w') :
    OperandText (w ++ w') := by
  intro x hx
  rcases List.mem_append.1 hx with hx | hx
  · exact h x hx
  · exact h' x hx

theorem OperandText.closed {w : List Char} (h : OperandText w) : Closed (w.map .bare) :=
  closed_map_bare.2 ⟨fun hx => (h _ hx).2.1 rfl, fun hx => (h _ hx).2.2 rfl⟩

theorem OperandText.yields {w : List Char} (h : OperandText w) (hne : w ≠ []) :
    Yields Expecting w (some w) := by
  have hplain : ∀ c, Segment.bare c ∈ w.map .bare → isPlain c = true := by
    intro c hc
    exact (h c (by simpa using hc)).1
  have hyields := yields_operand h.closed (by simpa using hne) hplain
  rwa [text_map_bare] at hyields

theorem OperandText.yields_literal {w inside : List Char} (h : OperandText w)
    (hquote : '"' ∉ inside) (hsentinel : sentinel ∉ inside) :
    Yields Expecting (w ++ '"' :: (inside ++ ['"'])) (some (w ++ '"' :: (inside ++ ['"']))) := by
  have hclosed : Closed (w.map .bare ++ [.literal inside]) := by
    simp [h.closed, Segment.Closed, hquote, hsentinel]
  have hplain : ∀ c, Segment.bare c ∈ w.map .bare ++ [.literal inside] → isPlain c = true := by
    intro c hc
    exact (h c (by simpa using hc)).1
  have hyields := yields_operand hclosed (by simp) hplain
  simpa [text_map_bare, Segment.text] using hyields

theorem operandText_field {f : List Char} (h : IsFieldName f) : OperandText f := by
  have hne : ∀ {x y : Char}, isFieldChar x = true → isFieldChar y = false → x ≠ y := by
    rintro x y hx hy rfl
    rw [hx] at hy
    cases hy
  have hchar : ∀ x, isFieldChar x = true → isPlain x = true ∧ x ≠ '"' ∧ x ≠ sentinel := by
    intro x hx
    have hblank : isBlank x = false := by
      cases hb : isBlank x with
      | false => rfl
      | true => simp [isFieldChar_of_isBlank hb] at hx
    have hopen : x ≠ '(' := hne hx (by decide +kernel)
    have hclose : x ≠ ')' := hne hx (by decide +kernel)
    have hand : x ≠ '&' := hne hx (by decide +kernel)
    have hor : x ≠ '|' := hne hx (by decide +kernel)
    refine ⟨?_, hne hx (by decide +kernel), hne hx (by decide +kernel)⟩
    simp [isPlain, isMark, hblank, hopen, hclose, hand, hor]
  have hstart : ∀ x, isNameStart x = true → isPlain x = true ∧ x ≠ '"' ∧ x ≠ sentinel := by
    intro x hx
    refine ⟨isPlain_of_isNameStart hx, ?_, ?_⟩
    · rintro rfl
      revert hx
      decide
    · rintro rfl
      revert hx
      decide
  obtain ⟨x, w, hf, hx, hw⟩ := h
  have htail : OperandText (x :: w) := by
    intro y hy
    rcases List.mem_cons.1 hy with rfl | hy
    · exact hstart y hx
    · exact hchar y (hw y hy)
  rcases hf with rfl | rfl
  · exact htail
  · exact OperandText.append (w := ['@']) (by decide) htail

theorem operandText_symbol (op : Operator) : OperandText op.symbol.toList := by
  cases op <;> decide

end Normal

/-- The literal of a writable value that is present is a word or a text between quotes. -/
theorem Value.Writable.exists_literal {v : Value} (h : v.Writable) (hv : v.isPresent = true) :
    ∃ lit, v.literal? = some lit ∧ (OperandText lit.toList ∨
      ∃ t, lit = "\"" ++ t ++ "\"" ∧ '"' ∉ t.toList ∧ sentinel ∉ t.toList) := by
  obtain ⟨t, ht, hquote, hsentinel⟩ := h hv
  cases v with
  | bool b =>
    refine ⟨_, rfl, .inl ?_⟩
    cases b <;> decide
  | _ => exact ⟨"\"" ++ t ++ "\"", by simp [literal?, ht], .inr ⟨t, rfl, hquote, hsentinel⟩⟩

namespace Condition

/-- What is written for a condition is its text. -/
theorem write_eq {c : Condition} (h : c.value.Writable) : c.write = .ok (c.text.getD "") := by
  cases hc : c.isPresent with
  | false => simp [write, text, hc]
  | true =>
    obtain ⟨lit, hlit, -⟩ := h.exists_literal hc
    simp [write, text, hc, hlit]

/-- The text of a condition is kept. -/
theorem yields {c : Condition} (hf : IsFieldName c.field.toList) (hv : c.value.Writable) :
    Yields Expecting (c.text.getD "").toList (c.text.map String.toList) := by
  cases hc : c.isPresent with
  | false =>
    simp only [text, hc]
    exact yields_nothing
  | true =>
    obtain ⟨lit, hlit, hkind⟩ := hv.exists_literal hc
    have hfront := (operandText_field hf).append (operandText_symbol c.operator)
    have hne : c.field.toList ++ c.operator.symbol.toList ≠ [] := by
      obtain ⟨x, w, hop, -⟩ := exists_symbol_eq_cons c.operator
      simp [hop]
    simp only [text, hc, hlit, if_true, Option.map_some, Option.getD_some, String.toList_append]
    rcases hkind with hword | ⟨t, rfl, hquote, hsentinel⟩
    · exact (hfront.append hword).yields (List.append_ne_nil_of_left_ne_nil hne _)
    · simpa using hfront.yields_literal hquote hsentinel

end Condition

end RecordFilter
