import RecordFilter.Proofs.Value
import RecordFilter.Record.Constraint

/-!
# Mistakes of a caller

A record shape that gives no names and a symbol that no operator has are mistakes of the caller, and
each has an error of its own. The error shows the value at fault, and this is the one thing that can
go wrong with it: a value that holds an integer of more than 4300 digits cannot be shown, and what
is reported then is the length of the integer.

## Main statements

* `Shape.reports_fieldNames`: what can come of reading the names of a shape.
* `Operator.ofSymbol_eq_error`: what can come of looking up a symbol that no operator has.
* `caller_mistakes_reported`: both, as a caller meets them.
-/

namespace RecordFilter

open Number (digitLimit)

def Value.isName : Value → Bool
  | text _ => true
  | _ => false

theorem Value.exists_text_of_isName {v : Value} (h : v.isName = true) : ∃ s, v = .text s := by
  cases v with
  | text s => exact ⟨s, rfl⟩
  | _ => cases h

/-- The first item that is no name. -/
def intruder? (vs : List Value) : Option Value := vs.find? fun v => !v.isName

namespace Shape

/-- Members of a set and keys of a mapping are values that do not change. No other row of values can
be made a set or a mapping. -/
def Makeable : Shape → Prop
  | members vs | keys vs => ∀ v ∈ vs, v.unfitKind? = none
  | _ => True

/-- The values that a refusal of the shape shows: what a walk over the record meets first that is no
name, or the record itself if it cannot be walked over. A class is shown by its name alone, and an
instance that cannot be walked over by the values of its fields. -/
def culprits : Shape → List Value
  | items vs | members vs | keys vs => (intruder? vs).toList
  | value v =>
    match v.items? with
    | some vs => (intruder? vs).toList
    | none => [v]
  | ofClass _ => []
  | instanceOf c values =>
    if c.isModel then
      (intruder? ((modelValues c values).map fun (n, v) => .tuple [.text n, v])).toList
    else if c.isKeyed then []
    else if c.line.any (·.kind = .positional) then
      (intruder? ((valuesOf (RecordClass.namesInOrder c.line) values).map Prod.snd)).toList
    else (valuesOf c.dataFields values).map Prod.snd

end Shape

/-- The error that shows a text, if there is one. -/
def refusal (problem : String → ShapeProblem) : Option String → FilterError
  | some shown => .shape (problem shown)
  | none => .integerTooLong

/-- A result that is a refusal of a shape if it is an error at all, unless one of the values that
the refusal shows holds an integer that is too long. -/
structure Reports {α : Type} (culprits : List Value) (r : Except FilterError α) : Prop where
  tooLong_iff : r = .error .integerTooLong ↔ ∃ v ∈ culprits, v.HoldsLong
  shape_of_error : ∀ e, r = .error e → e = .integerTooLong ∨ ∃ p, e = .shape p

namespace Reports

variable {α β : Type} {culprits : List Value}

theorem ok (a : α) : Reports [] (.ok a : Except FilterError α) := ⟨by simp, nofun⟩

theorem refused (p : ShapeProblem) : Reports [] (.error (.shape p) : Except FilterError α) :=
  ⟨by simp, fun _ h => .inr ⟨p, (Except.error.inj h).symm⟩⟩

/-- The text that an error shows is missing if one of the values holds a long integer. -/
theorem refusal {shown? : Option String} (h : shown? = none ↔ ∃ v ∈ culprits, v.HoldsLong)
    (problem : String → ShapeProblem) :
    Reports culprits (.error (RecordFilter.refusal problem shown?) : Except FilterError α) := by
  cases shown? with
  | some shown =>
    refine ⟨by simpa [RecordFilter.refusal] using h, fun e he => .inr ⟨problem shown, ?_⟩⟩
    exact (Except.error.inj he).symm
  | none =>
    refine ⟨by simpa [RecordFilter.refusal] using h, fun e he => .inl ?_⟩
    exact (Except.error.inj he).symm

theorem map {r : Except FilterError α} (h : Reports culprits r) (f : α → β) :
    Reports culprits (r.map f) := by
  cases r with
  | ok a => exact ⟨by simpa [Except.map] using h.tooLong_iff, nofun⟩
  | error e => exact ⟨by simpa [Except.map] using h.tooLong_iff, by simpa [Except.map] using h.2⟩

end Reports

namespace Shape

theorem textItems_cons_of_not_name {v : Value} (h : v.isName = false) (vs : List Value) :
    textItems (v :: vs) = .error (refusal .notName v.quoted?) := by
  unfold textItems
  split
  · next heq => cases heq
  · next heq =>
    cases heq
    cases h
  · next heq =>
    cases heq
    split <;> simp_all [refusal]

/-- A walk over items refuses the first that is no name. -/
theorem reports_textItems (vs : List Value) : Reports (intruder? vs).toList (textItems vs) := by
  induction vs with
  | nil => exact .ok []
  | cons v vs ih =>
    cases hv : v.isName with
    | true =>
      obtain ⟨s, rfl⟩ := Value.exists_text_of_isName hv
      exact ih.map (s :: ·)
    | false =>
      have hintruder : intruder? (v :: vs) = some v := by simp [intruder?, hv]
      rw [textItems_cons_of_not_name hv, hintruder]
      exact .refusal (by simp [Value.quoted?_eq_none_iff]) .notName

theorem checkFit_of_fit {vs : List Value} (h : ∀ v ∈ vs, v.unfitKind? = none) :
    checkFit vs = .ok () := by
  have hfit : vs.findSome? Value.unfitKind? = none := List.findSome?_eq_none_iff.2 h
  simp [checkFit, hfit]

theorem valueNames_of_items {v : Value} {vs : List Value} (hname : v.isName = false)
    (h : v.items? = some vs) : valueNames v = textItems vs := by
  unfold valueNames
  split
  · cases hname
  · simp [h]

theorem valueNames_of_not_iterable {v : Value} (h : v.items? = none) :
    valueNames v = .error (refusal .unreadable v.quoted?) := by
  unfold valueNames
  split
  · cases h
  · cases hq : v.quoted? <;> simp [h, refusal]

theorem reports_valueNames (v : Value) : Reports (value v).culprits (valueNames v) := by
  cases hitems : v.items? with
  | none =>
    rw [valueNames_of_not_iterable hitems]
    simp only [culprits, hitems]
    exact .refusal (by simp [Value.quoted?_eq_none_iff]) .unreadable
  | some vs =>
    simp only [culprits, hitems]
    cases hname : v.isName with
    | false =>
      rw [valueNames_of_items hname hitems]
      exact reports_textItems vs
    | true =>
      -- the characters of a text are names, but a text alone is refused before it is walked over
      obtain ⟨s, rfl⟩ := Value.exists_text_of_isName hname
      have hchars : intruder? vs = none := by
        simp only [Value.items?, Option.some.injEq] at hitems
        simp [← hitems, intruder?, Value.isName]
      rw [hchars]
      exact .refused .bareText

theorem instanceText?_eq_none_iff (name : String) (values : List (String × Value)) :
    instanceText? name values = none ↔ ∃ v ∈ values.map Prod.snd, v.HoldsLong := by
  have hparts : (values.mapM fun e => e.2.quoted?.map fun t => e.1 ++ "=" ++ t) = none ↔
      ∃ v ∈ values.map Prod.snd, v.HoldsLong := by
    induction values with
    | nil => simp
    | cons e values ih =>
      rw [List.map_cons, List.exists_mem_cons_iff, ← Value.quoted?_eq_none_iff e.2, ← ih,
        List.mapM_cons]
      generalize (values.mapM fun e => e.2.quoted?.map fun t => e.1 ++ "=" ++ t) = rest
      cases e.2.quoted? <;> cases rest <;> simp
  rw [← hparts, instanceText?]
  cases values.mapM fun e => e.2.quoted?.map fun t => e.1 ++ "=" ++ t <;> simp

theorem reports_instanceNames (c : RecordClass) (values : List (String × Value)) :
    Reports (instanceOf c values).culprits (instanceNames c values) := by
  unfold instanceNames
  simp only [culprits]
  split_ifs
  · exact reports_textItems _
  · exact .ok _
  · exact reports_textItems _
  · have hnone := instanceText?_eq_none_iff c.name (valuesOf c.dataFields values)
    cases h : instanceText? c.name (valuesOf c.dataFields values) with
    | some shown => exact .refusal (h ▸ hnone) .unreadable
    | none => exact .refusal (h ▸ hnone) .unreadable

theorem reports_classNames (c : RecordClass) : Reports [] c.fieldNames := by
  unfold RecordClass.fieldNames
  split
  · exact .ok _
  split
  · exact .ok _
  split
  · exact .refused _
  · exact .ok _

/-- The names of a shape are read, or the shape is refused. -/
theorem reports_fieldNames {s : Shape} (h : s.Makeable) : Reports s.culprits s.fieldNames := by
  cases s with
  | items vs => exact reports_textItems vs
  | members vs =>
    have hnames : (members vs).fieldNames = textItems vs := by
      rw [fieldNames, checkFit_of_fit h]
      rfl
    rw [hnames]
    exact reports_textItems vs
  | keys vs =>
    have hnames : (keys vs).fieldNames = textItems vs := by
      rw [fieldNames, checkFit_of_fit h]
      rfl
    rw [hnames]
    exact reports_textItems vs
  | value v => exact reports_valueNames v
  | ofClass c => exact reports_classNames c
  | instanceOf c values => exact reports_instanceNames c values

end Shape

theorem Constraint.reports_ofShape? {record : Option Shape} (h : ∀ s ∈ record, s.Makeable) :
    Reports (record.elim [] Shape.culprits) (ofShape? record) := by
  unfold ofShape?
  split
  · exact .ok free
  · -- no record, given as the missing value: nothing is read, and nothing would have to be shown
    have hshort : ¬ Value.null.HoldsLong := by rintro ⟨⟩
    constructor <;> simp [Shape.culprits, Value.items?, hshort]
  · next s _ => exact (Shape.reports_fieldNames (h s rfl)).map ofNames

/-! ## Symbols -/

namespace Operator

theorem ofSymbol?_eq_some_iff {s : String} {op : Operator} :
    ofSymbol? s = some op ↔ s = op.symbol := by
  constructor
  · intro h
    rw [ofSymbol?] at h
    have heq := List.find?_some h
    exact (eq_of_beq heq).symm
  · rintro rfl
    cases op <;> rfl

theorem ofValue?_eq_some_iff {v : Value} {op : Operator} :
    ofValue? v = some op ↔ v = .text op.symbol := by
  cases v with
  | text s => simp [ofValue?, ofSymbol?_eq_some_iff]
  | _ => exact ⟨nofun, nofun⟩

/-- Looking up a symbol finds the operator that has it. -/
theorem ofSymbol_eq_ok_iff {v : Value} {op : Operator} :
    ofSymbol v = .ok op ↔ v = .text op.symbol := by
  rw [← ofValue?_eq_some_iff, ofSymbol]
  cases ofValue? v with
  | some found => simp
  | none => cases v.quoted? <;> simp

/-- A value that is no symbol is shown, unless it holds a long integer. -/
theorem ofSymbol_eq_error {v : Value} {e : FilterError} (h : ofSymbol v = .error e) :
    (v.HoldsLong ∧ e = .integerTooLong) ∨
      ¬ v.HoldsLong ∧ ∃ shown, e = .unknownOperator v shown (all.map symbol) := by
  rw [← Value.quoted?_eq_none_iff]
  unfold ofSymbol at h
  split at h
  · cases h
  · split at h
    · next shown hshown =>
      cases h
      exact .inr ⟨by simp [hshown], shown, rfl⟩
    · next hnone =>
      cases h
      exact .inl ⟨hnone, rfl⟩

end Operator

/-- A record that can be made gives a constraint or is refused as a shape, and a value that is given
for an operator is its symbol or is refused as one, with the value in the details. The one exception
is a value to be shown that holds an integer of more than 4300 digits. -/
theorem caller_mistakes_reported {record : Option Shape} (h : ∀ s ∈ record, s.Makeable)
    (symbol : Value) :
    Reports (record.elim [] Shape.culprits) (Constraint.ofShape? record) ∧
      (∀ op, Operator.ofSymbol symbol = .ok op ↔ symbol = .text op.symbol) ∧
      ∀ e, Operator.ofSymbol symbol = .error e →
        (symbol.HoldsLong ∧ e = .integerTooLong) ∨ ¬ symbol.HoldsLong ∧
          (∃ shown, e = .unknownOperator symbol shown (Operator.all.map Operator.symbol)) ∧
          e.details = some [("symbol", symbol)] := by
  refine ⟨Constraint.reports_ofShape? h, fun op => Operator.ofSymbol_eq_ok_iff, fun e he => ?_⟩
  rcases Operator.ofSymbol_eq_error he with hlong | ⟨hshort, shown, rfl⟩
  · exact .inl hlong
  · exact .inr ⟨hshort, ⟨shown, rfl⟩, rfl⟩

/-- A number among the keys of a mapping is refused as a name, and a list as a symbol. -/
theorem caller_mistakes_reported_number_key :
    (∀ s ∈ some (Shape.keys [.text "title", .int 7]), s.Makeable) ∧
      Constraint.ofShape? (some (.keys [.text "title", .int 7])) ≠ .error .integerTooLong ∧
      ∀ e, Operator.ofSymbol (.list [.text "="]) = .error e →
        e.details = some [("symbol", .list [.text "="])] := by
  have hmakeable : ∀ s ∈ some (Shape.keys [.text "title", .int 7]), s.Makeable := by
    rintro _ ⟨⟩ v hv
    revert v
    decide
  have hseven : ¬ (Value.int 7).HoldsLong := by
    rw [Value.holdsLong_int]
    decide +kernel
  have hsymbol : ¬ (Value.list [.text "="]).HoldsLong := by
    rw [Value.holdsLong_list]
    rintro ⟨v, hv, hlong⟩
    rw [List.mem_singleton.1 hv] at hlong
    cases hlong
  obtain ⟨hrecord, -, herror⟩ := caller_mistakes_reported hmakeable (.list [.text "="])
  refine ⟨hmakeable, fun hlong => ?_, fun e he => ?_⟩
  · obtain ⟨v, hv, hvlong⟩ := hrecord.tooLong_iff.1 hlong
    rw [show v = .int 7 from List.mem_singleton.1 hv] at hvlong
    exact hseven hvlong
  · rcases herror e he with ⟨hlong, -⟩ | ⟨-, -, hdetails⟩
    · exact absurd hlong hsymbol
    · exact hdetails

/-- An error about an integer of more than 4300 digits cannot be written either. -/
theorem not_forall_mistakes_reported :
    (¬ ∀ s : Shape, s.Makeable → ∀ e, Constraint.ofShape? (some s) = .error e →
      ∃ p, e = .shape p) ∧
    ¬ ∀ symbol : Value, (∃ op, Operator.ofSymbol symbol = .ok op ∧ symbol = .text op.symbol) ∨
      ∃ e, Operator.ofSymbol symbol = .error e ∧ e.details = some [("symbol", symbol)] := by
  constructor
  · intro h
    have herror : Constraint.ofShape? (some (.items [.int (Nat.pow 10 digitLimit : Nat)])) =
        .error .integerTooLong := by
      refine (Constraint.reports_ofShape? ?_).tooLong_iff.2 ⟨_, ?_, Value.holdsLong_limit⟩
      · rintro _ ⟨⟩
        trivial
      · exact List.mem_singleton.2 rfl
    obtain ⟨p, hp⟩ := h (.items [.int (Nat.pow 10 digitLimit : Nat)]) trivial _ herror
    cases hp
  · intro h
    have hne : ∀ op : Operator, Value.int (Nat.pow 10 digitLimit : Nat) ≠ .text op.symbol := nofun
    rcases h (.int (Nat.pow 10 digitLimit : Nat)) with ⟨op, -, hop⟩ | ⟨e, he, hdetails⟩
    · exact hne op hop
    · rcases Operator.ofSymbol_eq_error he with ⟨-, rfl⟩ | ⟨hshort, -⟩
      · cases hdetails
      · exact hshort Value.holdsLong_limit

end RecordFilter
