import RecordFilter.Proofs.Mistake
import RecordFilter.Proofs.Script.Write

/-!
# What calls leave on a builder

A call on a builder appends fragments and sets the last value. One that is refused, because of its
field, its operator or its values, does neither. But a call that is not refused may still fail, on a
value that holds an integer of more than 4300 digits, and by then it has done a part of its work: a
condition has set the last value, and a row of alternatives has been appended up to the connective
in front of the value.

## Main statements

* `Builder.builder_compare`, `Builder.fragments_anyOf`: what is appended, whether the call fails or
  not.
* `builder_of_failed_call`: the builder after a call that fails.
* `not_forall_failed_call_unchanged`: a failed call that changes the last value.
-/

namespace RecordFilter

open Number (digitLimit)

/-- The fragments that are appended for a condition: none if its value is absent or too long. -/
def Condition.fragments (c : Condition) : List String :=
  match c.write with
  | .ok w => if w = "" then [] else [w]
  | .error _ => []

theorem Constraint.accepts_of_refusal {k : Constraint} {field : String} {e : FilterError}
    (h : k.refusal? field = some e) : k.accepts field = false := by
  rw [← Bool.not_eq_true, ← refusal?_eq_none_iff, h]
  nofun

namespace Builder

variable {b : Builder} {op : Operator} {field : String} {v values : Value} {e : FilterError}

theorem compare_of_refused (h : b.constraint.refusal? field = some e) :
    b.compare op field v = .failed b e := by
  simp [compare, h]

theorem builder_compare (h : b.constraint.refusal? field = none) :
    (b.compare op field v).builder =
      (b.withLast v).appendAll (Condition.fragments ⟨field, op, v⟩) := by
  unfold compare Condition.fragments
  simp only [h]
  split
  · next hwrite => simp [hwrite, Outcome.failed, appendAll]
  · next hwrite => simp [hwrite, Outcome.done, appendAll]
  · next w hne hwrite =>
    have hw : w ≠ "" := hne
    simp [hwrite, hw, Outcome.done, append, appendAll]

theorem error_compare (h : b.constraint.refusal? field = none) :
    (b.compare op field v).error = some e ↔ v.HoldsLong ∧ e = .integerTooLong := by
  rw [← Condition.write_eq_error_iff (c := ⟨field, op, v⟩)]
  unfold compare
  simp only [h]
  split
  · next hwrite => simp [hwrite, Outcome.failed]
  · next hwrite => simp [hwrite, Outcome.done]
  · next hwrite => simp [hwrite, Outcome.done]

/-- A comparison that fails on its field leaves the builder as it was, and one that fails on its
value has set the last value. -/
theorem compare_of_error (h : (b.compare op field v).error = some e) :
    (¬ b.constraint.accepts field = true → (b.compare op field v).builder = b) ∧
      (b.constraint.accepts field = true → e = .integerTooLong ∧ v.HoldsLong ∧
        (b.compare op field v).builder = b.withLast v) := by
  rw [← Constraint.refusal?_eq_none_iff]
  refine ⟨fun hrefused => ?_, fun hfield => ?_⟩
  · obtain ⟨e', he'⟩ := Option.ne_none_iff_exists'.1 hrefused
    rw [compare_of_refused he']
    rfl
  · obtain ⟨hlong, he⟩ := (error_compare hfield).1 h
    have hwrite : Condition.write ⟨field, op, v⟩ = .error .integerTooLong :=
      Condition.write_eq_error_iff.2 ⟨hlong, rfl⟩
    refine ⟨he, hlong, ?_⟩
    rw [builder_compare hfield]
    simp [Condition.fragments, hwrite, appendAll]

theorem anyOf_of_refused (h : b.constraint.refusal? field = some e) :
    b.anyOf field values = .failed b e := by
  simp [anyOf, h]

theorem anyOf_of_not_iterable (h : b.constraint.refusal? field = none)
    (hitems : values.items? = none) :
    b.anyOf field values = .failed b (.notIterable values.kindName) := by
  simp [anyOf, h, hitems]

/-- The fragments that are appended for alternatives on the items of a value. -/
def alternativeFragments (field : String) (items : List Value) : List String :=
  (alternatives field true (items.filter Value.isPresent)).1

theorem fragments_anyOf (h : b.constraint.refusal? field = none) {items : List Value}
    (hitems : values.items? = some items) :
    (b.anyOf field values).builder.constraint = b.constraint ∧
      (b.anyOf field values).builder.fragments =
        b.fragments ++ alternativeFragments field items := by
  unfold anyOf alternativeFragments
  simp only [h, hitems]
  split
  · exact ⟨rfl, rfl⟩
  · exact ⟨rfl, rfl⟩

/-- Alternatives fail at the first item that is too long. What has been appended by then are the
conditions in front of it, each with a connective behind it. -/
theorem alternatives_of_error {items : List Value} {first : Bool}
    (h : (alternatives field first (items.filter Value.isPresent)).2 = some e) :
    e = .integerTooLong ∧ (∃ v ∈ items, v.HoldsLong) ∧
      (alternatives field first (items.filter Value.isPresent)).1 =
        (if first then [] else [Connective.or.spaced]) ++
          (alternativeTexts field (items.takeWhile fun v => v.literal?.isSome)).flatMap fun t =>
            [t, Connective.or.spaced] := by
  induction items generalizing first with
  | nil => cases h
  | cons v items ih =>
    cases hlit : v.literal? with
    | none =>
      have hlong : v.HoldsLong := v.literal?_eq_none_iff.1 hlit
      have hwrite : Condition.write ⟨field, .like, v⟩ = .error .integerTooLong :=
        Condition.write_eq_error_iff.2 ⟨hlong, rfl⟩
      rw [List.filter_cons_of_pos hlong.isPresent] at h ⊢
      simp only [alternatives, hwrite, Option.some.injEq] at h ⊢
      exact ⟨h.symm, ⟨v, List.mem_cons_self, hlong⟩, by simp [hlit, alternativeTexts]⟩
    | some lit =>
      have hitems : (∃ v ∈ items, v.HoldsLong) → ∃ w ∈ v :: items, w.HoldsLong := by
        rintro ⟨w, hw, hlong⟩
        exact ⟨w, List.mem_cons_of_mem v hw, hlong⟩
      have htake : (v :: items).takeWhile (fun v => v.literal?.isSome) =
          v :: items.takeWhile fun v => v.literal?.isSome :=
        List.takeWhile_cons_of_pos (by simp [hlit])
      cases hpresent : v.isPresent with
      | false =>
        rw [List.filter_cons_of_neg (by simp [hpresent])] at h ⊢
        obtain ⟨he, hlong, hfragments⟩ := ih h
        refine ⟨he, hitems hlong, ?_⟩
        rw [hfragments, htake]
        simp [alternativeTexts, Condition.text, Condition.isPresent, hpresent]
      | true =>
        have hwrite : Condition.write ⟨field, .like, v⟩ =
            .ok (field ++ Operator.like.symbol ++ lit) := by
          simp [Condition.write, Condition.isPresent, hpresent, hlit]
        rw [List.filter_cons_of_pos hpresent] at h ⊢
        simp only [alternatives, hwrite] at h ⊢
        obtain ⟨he, hlong, hfragments⟩ := ih h
        refine ⟨he, hitems hlong, ?_⟩
        rw [hfragments, htake]
        simp [alternativeTexts, Condition.text, Condition.isPresent, hpresent, hlit]

theorem anyOf_of_error (h : b.constraint.refusal? field = none) {items : List Value}
    (hitems : values.items? = some items) (herror : (b.anyOf field values).error = some e) :
    e = .integerTooLong ∧ (∃ v ∈ items, v.HoldsLong) ∧ (b.anyOf field values).builder =
      b.appendAll ((alternativeTexts field (items.takeWhile fun v => v.literal?.isSome)).flatMap
        fun t => [t, Connective.or.spaced]) := by
  unfold anyOf at herror ⊢
  simp only [h, hitems] at herror ⊢
  split at herror
  · next e' he' =>
    cases herror
    obtain ⟨rfl, hlong, hfragments⟩ := alternatives_of_error he'
    refine ⟨rfl, hlong, ?_⟩
    simp only [Outcome.failed]
    simpa using congrArg b.appendAll hfragments
  · cases herror

end Builder

namespace Call

/-- The field, the operator and the values of the call are ones that a builder with this constraint
takes: the field is accepted, the operator exists, and the values can be walked over. -/
def Admitted (k : Constraint) : Call → Prop
  | compare _ field _ => k.accepts field = true
  | compareBy symbol field _ => (∃ op : Operator, symbol = .text op.symbol) ∧ k.accepts field = true
  | anyOf field values => k.accepts field = true ∧ values.items? ≠ none
  | _ => True

/-- The values that a call writes out. -/
def values : Call → List Value
  | compare _ _ v | compareBy _ _ v => [v]
  | anyOf _ values => values.items?.getD []
  | _ => []

/-- The builder after a call that has met a value that is too long. The last value has been set by
then, or the alternatives in front of that value have been appended, each with the connective to the
next. -/
def leavings : Call → Builder → Builder
  | compare _ _ v, b | compareBy _ _ v, b => b.withLast v
  | anyOf field values, b =>
    b.appendAll ((alternativeTexts field ((values.items?.getD []).takeWhile fun v =>
      v.literal?.isSome)).flatMap fun t => [t, Connective.or.spaced])
  | _, b => b

end Call

/-- A call that is not admitted leaves the builder as it was if it fails. One that is admitted fails
only on a value that holds an integer of more than 4300 digits, and then it leaves the part of its
work behind that it had done. -/
theorem builder_of_failed_call {c : Call} {b : Builder} {e : FilterError}
    (h : (c.run b).error = some e) :
    (¬ c.Admitted b.constraint → (c.run b).builder = b) ∧
      (c.Admitted b.constraint → e = .integerTooLong ∧ (∃ v ∈ c.values, v.HoldsLong) ∧
        (c.run b).builder = c.leavings b) := by
  cases c with
  | compare op field v =>
    obtain ⟨hrefused, haccepted⟩ := Builder.compare_of_error h
    refine ⟨hrefused, fun hfield => ?_⟩
    obtain ⟨he, hlong, hbuilder⟩ := haccepted hfield
    exact ⟨he, ⟨v, List.mem_singleton_self v, hlong⟩, hbuilder⟩
  | compareBy symbol field v =>
    simp only [Call.run] at h ⊢
    cases hop : Operator.ofSymbol symbol with
    | error e' =>
      refine ⟨fun _ => rfl, fun hadmitted => ?_⟩
      obtain ⟨⟨op, hsymbol⟩, -⟩ := hadmitted
      rw [Operator.ofSymbol_eq_ok_iff.2 hsymbol] at hop
      cases hop
    | ok op =>
      rw [hop] at h
      obtain ⟨hrefused, haccepted⟩ := Builder.compare_of_error h
      refine ⟨fun hnot => hrefused fun hfield => ?_, fun hadmitted => ?_⟩
      · exact hnot ⟨⟨op, Operator.ofSymbol_eq_ok_iff.1 hop⟩, hfield⟩
      · obtain ⟨he, hlong, hbuilder⟩ := haccepted hadmitted.2
        exact ⟨he, ⟨v, List.mem_singleton_self v, hlong⟩, hbuilder⟩
  | anyOf field values =>
    simp only [Call.run, Call.Admitted, Call.values, Call.leavings] at h ⊢
    cases hfield : b.constraint.refusal? field with
    | some e' =>
      have hrefused := Constraint.accepts_of_refusal hfield
      rw [Builder.anyOf_of_refused hfield]
      exact ⟨fun _ => rfl, fun hadmitted => absurd hadmitted.1 (by simp [hrefused])⟩
    | none =>
      have haccepted := Constraint.refusal?_eq_none_iff.1 hfield
      cases hitems : values.items? with
      | none =>
        rw [Builder.anyOf_of_not_iterable hfield hitems]
        exact ⟨fun _ => rfl, fun hadmitted => absurd rfl hadmitted.2⟩
      | some items =>
        refine ⟨fun hnot => absurd ⟨haccepted, Option.some_ne_none items⟩ hnot, fun _ => ?_⟩
        exact Builder.anyOf_of_error hfield hitems h
  | connect _ | openBracket | closeBracket | custom _ | read | inspect | build => cases h

/-- An item that is too long leaves the alternatives in front of it behind, and a connective. -/
theorem builder_of_failed_call_second_item :
    ((Call.anyOf "a" (.list [.text "x", .int (Nat.pow 10 digitLimit : Nat)])).run
        (.new .free)).error = some .integerTooLong ∧
      ((Call.anyOf "a" (.list [.text "x", .int (Nat.pow 10 digitLimit : Nat)])).run
        (.new .free)).builder.query = "a~\"x\" || " := by
  have hlong := Value.holdsLong_limit
  generalize Value.int (Nat.pow 10 digitLimit : Nat) = v at hlong ⊢
  have herror : ((Call.anyOf "a" (.list [.text "x", v])).run (.new .free)).error =
      some .integerTooLong := by
    have hwrite : Condition.write ⟨"a", .like, v⟩ = .error .integerTooLong :=
      Condition.write_eq_error_iff.2 ⟨hlong, rfl⟩
    have hpresent : [Value.text "x", v].filter Value.isPresent = [.text "x", v] := by
      rw [List.filter_cons_of_pos rfl, List.filter_cons_of_pos hlong.isPresent, List.filter_nil]
    have hx : Condition.write ⟨"a", .like, .text "x"⟩ = .ok "a~\"x\"" := rfl
    simp [Call.run, Builder.anyOf, Builder.new, Value.items?, hpresent, Builder.alternatives, hx,
      hwrite, Outcome.failed]
  have hbefore : [Value.text "x", v].takeWhile (fun v => v.literal?.isSome) = [.text "x"] := by
    have hlit : v.literal? = none := v.literal?_eq_none_iff.2 hlong
    rw [List.takeWhile_cons_of_pos rfl, List.takeWhile_cons_of_neg (by simp [hlit])]
  obtain ⟨-, hadmitted⟩ := builder_of_failed_call herror
  obtain ⟨-, -, hbuilder⟩ := hadmitted ⟨rfl, Option.some_ne_none _⟩
  refine ⟨herror, ?_⟩
  rw [hbuilder]
  simp only [Call.leavings, Value.items?, Option.getD_some, hbefore]
  rfl

/-- A comparison with a value that is too long fails and has set the last value. -/
theorem not_forall_failed_call_unchanged :
    ¬ ∀ c : Call, (c.run (.new .free)).error ≠ none →
      (c.run (.new .free)).builder.query = (Builder.new .free).query ∧
        (c.run (.new .free)).builder.last = (Builder.new .free).last := by
  intro h
  have hfield : (Builder.new .free).constraint.refusal? "a" = none := rfl
  have herror : ((Call.compare .equal "a" (.int (Nat.pow 10 digitLimit : Nat))).run
      (.new .free)).error = some .integerTooLong := by
    rw [Call.run, Builder.error_compare hfield]
    exact ⟨Value.holdsLong_limit, rfl⟩
  obtain ⟨-, hlast⟩ := h _ (herror ▸ Option.some_ne_none _)
  rw [Call.run, Builder.builder_compare hfield] at hlast
  cases hlast

end RecordFilter
