import RecordFilter.Proofs.Row.Kept
import RecordFilter.Proofs.Script.Write

/-!
# Scripts as rows

Calls that write conditions on proper fields, connectives and brackets add a row of pieces to the
query, and so does a script of such calls. The row says all there is to say about what is built from
the script.

## Main statements

* `BlockPlain.writes`: a script writes the text of its row.
* `build_row`: building returns the text of what is kept of the row.
-/

namespace RecordFilter

open Text RecordFilter.Normal

/-! ## Conditions -/

/-- A condition is one piece; on an absent value it is none. -/
def Condition.pieces (c : Condition) : List Piece := (c.text.map fun t => .operand t.toList).toList

/-- The pieces of conditions that ask the field to be like one of the values. -/
def alternativePieces (field : String) (vs : List Value) : List Piece :=
  ((alternativeTexts field vs).map fun t => .operand t.toList).intersperse (.joint .or)

theorem Condition.toList_text (c : Condition) : (c.text.getD "").toList = rowText c.pieces := by
  unfold pieces
  cases c.text <;> simp [rowText, Piece.text]

theorem Condition.proper_pieces {c : Condition} (hf : IsFieldName c.field.toList)
    (hv : c.value.Writable) : ∀ p ∈ c.pieces, p.Proper := by
  cases hc : c.isPresent with
  | false => simp [pieces, text, hc]
  | true =>
    obtain ⟨lit, hlit, hkind⟩ := hv.exists_literal hc
    have hliteral : IsLiteral lit.toList := by
      rcases hkind with hword | ⟨t, rfl, hquote, hsentinel⟩
      · exact .inl hword
      · exact .inr ⟨t.toList, by simp [Segment.text], hquote, hsentinel⟩
    have hoperand : IsOperand (c.field ++ c.operator.symbol ++ lit).toList :=
      ⟨c.field.toList, lit.toList, c.operator, hf, hliteral, by simp⟩
    simpa [pieces, text, hc, hlit, Piece.Proper] using hoperand

theorem rowText_intersperse (ts : List String) (c : Connective) :
    rowText ((ts.map fun t => .operand t.toList).intersperse (.joint c)) =
      (c.spaced.intercalate ts).toList := by
  induction ts with
  | nil => rfl
  | cons t ts ih =>
    cases ts with
    | nil => simp [rowText, Piece.text]
    | cons u ts =>
      rw [String.intercalate_cons_cons, String.toList_append, String.toList_append, ← ih]
      simp [rowText_cons, Piece.text]

theorem toList_alternativesText (field : String) (vs : List Value) :
    ((alternativesText field vs).getD "").toList = rowText (alternativePieces field vs) := by
  rw [alternativesText_getD, alternativePieces, rowText_intersperse]

theorem proper_intersperse {ts : List String} (h : ∀ t ∈ ts, IsOperand t.toList) (c : Connective) :
    ∀ p ∈ (ts.map fun t => Piece.operand t.toList).intersperse (.joint c), p.Proper := by
  induction ts with
  | nil => nofun
  | cons t ts ih =>
    obtain ⟨ht, hts⟩ := List.forall_mem_cons.1 h
    cases ts with
    | nil => exact List.forall_mem_cons.2 ⟨ht, nofun⟩
    | cons u ts => exact List.forall_mem_cons.2 ⟨ht, List.forall_mem_cons.2 ⟨trivial, ih hts⟩⟩

theorem proper_alternativePieces {field : String} (hf : IsFieldName field.toList)
    {vs : List Value} (h : ∀ v ∈ vs, v.Writable) :
    ∀ p ∈ alternativePieces field vs, p.Proper := by
  refine proper_intersperse ?_ .or
  intro t ht
  obtain ⟨v, hv, htext⟩ := List.mem_filterMap.1 ht
  exact Condition.proper_pieces (c := ⟨field, .like, v⟩) hf (h v hv) (.operand t.toList)
    (by simp [Condition.pieces, htext])

/-! ## Calls -/

namespace Call

/-- The pieces that a call writes. -/
def pieces : Call → List Piece
  | compare op field value => Condition.pieces ⟨field, op, value⟩
  | compareBy symbol field value =>
    match Operator.ofValue? symbol with
    | some op => Condition.pieces ⟨field, op, value⟩
    | none => []
  | anyOf field values => alternativePieces field (values.items?.getD [])
  | connect c => [.joint c]
  | openBracket => [.opening]
  | closeBracket => [.closing]
  | custom _ | read | inspect | build => []

/-- The call writes pieces: a condition on a proper field with a value that can be written, a
connective or a bracket. -/
def Plain : Call → Prop
  | compare _ field value => IsFieldName field.toList ∧ value.Writable
  | compareBy symbol field value =>
    (∃ op, Operator.ofValue? symbol = some op) ∧ IsFieldName field.toList ∧ value.Writable
  | anyOf field values =>
    IsFieldName field.toList ∧ ∃ items, values.items? = some items ∧ ∀ v ∈ items, v.Writable
  | connect _ | openBracket | closeBracket => True
  | custom _ | read | inspect | build => False

variable {c : Call}

/-- A condition that compares a field of one letter with a text. -/
theorem plain_compare_letter (op : Operator) {f t : String} {x : Char} (hf : f.toList = [x])
    (hx : isNameStart x = true) (ht : '"' ∉ t.toList ∧ sentinel ∉ t.toList) :
    (compare op f (.text t)).Plain :=
  ⟨hf ▸ ⟨x, [], .inl rfl, hx, nofun⟩, fun _ => ⟨t, rfl, ht⟩⟩

theorem plain_compare_a : (compare .equal "a" (.text "1")).Plain :=
  plain_compare_letter _ rfl (by decide) (by decide)

theorem plain_compare_b : (compare .equal "b" (.text "2")).Plain :=
  plain_compare_letter _ rfl (by decide) (by decide)

theorem Plain.proper (h : c.Plain) : ∀ p ∈ c.pieces, p.Proper := by
  cases c with
  | compare op field value => exact Condition.proper_pieces (c := ⟨field, op, value⟩) h.1 h.2
  | compareBy symbol field value =>
    obtain ⟨⟨op, hop⟩, hfield, hvalue⟩ := h
    simpa [pieces, hop] using Condition.proper_pieces (c := ⟨field, op, value⟩) hfield hvalue
  | anyOf field values =>
    obtain ⟨hfield, items, hitems, hvalues⟩ := h
    simpa [pieces, hitems] using proper_alternativePieces hfield hvalues
  | connect c => simp [pieces, Piece.Proper]
  | openBracket => simp [pieces, Piece.Proper]
  | closeBracket => simp [pieces, Piece.Proper]
  | _ => cases h

/-- The call writes the text of its pieces. -/
theorem Plain.writes (h : c.Plain) : c.Writes (String.ofList (rowText c.pieces)) := by
  cases c with
  | compare op field value =>
    rw [pieces, ← Condition.toList_text, String.ofList_toList]
    exact compare_writes op field h.2
  | compareBy symbol field value =>
    obtain ⟨⟨op, hop⟩, -, hvalue⟩ := h
    have hsymbol : Operator.ofSymbol symbol = .ok op := by simp [Operator.ofSymbol, hop]
    simp only [pieces, hop]
    rw [← Condition.toList_text, String.ofList_toList]
    intro b hb
    have hrun : (compareBy symbol field value).run b = (compare op field value).run b := by
      simp [run, hsymbol]
    rw [hrun]
    exact compare_writes op field hvalue b hb
  | anyOf field values =>
    obtain ⟨-, items, hitems, hvalues⟩ := h
    rw [pieces, hitems, Option.getD_some, ← toList_alternativesText, String.ofList_toList]
    exact anyOf_writes field hitems hvalues
  | connect c =>
    simpa [pieces, rowText, Piece.text] using connect_writes c
  | openBracket => exact openBracket_writes
  | closeBracket => exact closeBracket_writes
  | _ => cases h

end Call

/-! ## Scripts -/

section
variable {ι : Type}

mutual

/-- The pieces that a step writes. -/
def Step.pieces : Step ι → List Piece
  | .call _ c => c.pieces
  | .group _ body => .opening :: (blockPieces body ++ [.closing])

def blockPieces : List (Step ι) → List Piece
  | [] => []
  | step :: steps => step.pieces ++ blockPieces steps

end

mutual

/-- All calls are plain ones on the builder of that name. -/
def Step.Plain (i : ι) : Step ι → Prop
  | .call j c => j = i ∧ c.Plain
  | .group j body => j = i ∧ BlockPlain i body

def BlockPlain (i : ι) : List (Step ι) → Prop
  | [] => True
  | step :: steps => step.Plain i ∧ BlockPlain i steps

end

@[simp] theorem blockPieces_append (steps steps' : List (Step ι)) :
    blockPieces (steps ++ steps') = blockPieces steps ++ blockPieces steps' := by
  induction steps with
  | nil => rfl
  | cons step steps ih => simp [blockPieces, ih]

@[simp] theorem blockPlain_append {i : ι} {steps steps' : List (Step ι)} :
    BlockPlain i (steps ++ steps') ↔ BlockPlain i steps ∧ BlockPlain i steps' := by
  induction steps with
  | nil => simp [BlockPlain]
  | cons step steps ih => simp [BlockPlain, ih, and_assoc]

end

section
variable {ι : Type} {i : ι}

mutual

theorem Step.Plain.proper {step : Step ι} (h : step.Plain i) : ∀ p ∈ step.pieces, p.Proper := by
  match step with
  | .call j c => exact Call.Plain.proper (h : j = i ∧ c.Plain).2
  | .group j body =>
    have hbody := BlockPlain.proper (h : j = i ∧ BlockPlain i body).2
    simp only [Step.pieces, List.mem_cons, List.mem_append, List.not_mem_nil, or_false]
    rintro p (rfl | hp | rfl)
    · trivial
    · exact hbody p hp
    · trivial

theorem BlockPlain.proper {steps : List (Step ι)} (h : BlockPlain i steps) :
    ∀ p ∈ blockPieces steps, p.Proper := by
  match steps with
  | [] => simp [blockPieces]
  | step :: steps =>
    have hstep := Step.Plain.proper (h : step.Plain i ∧ BlockPlain i steps).1
    have hsteps := BlockPlain.proper (h : step.Plain i ∧ BlockPlain i steps).2
    intro p hp
    exact (List.mem_append.1 hp).elim (hstep p) (hsteps p)

end

variable [DecidableEq ι]

mutual

theorem Step.Plain.writes {step : Step ι} (h : step.Plain i) :
    Writes i [step] (String.ofList (rowText step.pieces)) := by
  match step with
  | .call j c =>
    obtain ⟨hj, hcall⟩ : j = i ∧ c.Plain := h
    rw [hj]
    exact .call hcall.writes i
  | .group j body =>
    obtain ⟨hj, hbody⟩ : j = i ∧ BlockPlain i body := h
    have htext : String.ofList (rowText (Step.group j body).pieces) =
        "(" ++ String.ofList (rowText (blockPieces body)) ++ ")" := by
      simp [Step.pieces, rowText, Piece.text, String.ext_iff]
    rw [htext, hj]
    exact (BlockPlain.writes hbody).group

/-- A script writes the text of its row. -/
theorem BlockPlain.writes {steps : List (Step ι)} (h : BlockPlain i steps) :
    Writes i steps (String.ofList (rowText (blockPieces steps))) := by
  match steps with
  | [] => exact Writes.nil i
  | step :: steps =>
    obtain ⟨hstep, hsteps⟩ : step.Plain i ∧ BlockPlain i steps := h
    rw [blockPieces, rowText_append, String.ofList_append]
    exact (Step.Plain.writes hstep).append (BlockPlain.writes hsteps)

end

/-- Building after the steps on a fresh builder without a constraint returns the text of what is
kept of the row that they write. -/
theorem build_row {steps : List (Step ι)} (h : BlockPlain i steps) {s : Bench ι}
    (hs : s i = some (.new .free)) :
    (runScript (steps ++ [.call i .build]) s).answers.getLast? =
      some (.call "" .null (some (String.ofList (rowText (kept (blockPieces steps))))) none) := by
  have hbuilt : normalize (String.ofList (rowText (blockPieces steps))) =
      String.ofList (rowText (kept (blockPieces steps))) := by
    rw [normalize, String.toList_ofList, normalizeChars_rowText h.proper]
  rw [h.writes.getLast?_build hs, hbuilt]

end

end RecordFilter
