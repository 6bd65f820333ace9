import RecordFilter.Proofs.Script.Write

/-!
# Expressions

A well-formed script writes an *expression*: terms with connectives between them, where a term is a
condition, a row of alternatives, a custom fragment that holds nothing, or an expression in
brackets. Conditions on absent values leave connectives and brackets stranded in the query. What is
built from it is the expression without its absent terms, with the connective that stood right
before each term that has another one in front of it.

## Main statements

* `Expr.exists_writes`: what the steps of an expression write yields what is shown of it.
* `build_expression`: building after those steps returns what is shown.
-/

namespace RecordFilter

open Text RecordFilter.Normal RecordFilter.Normal.Reader

mutual

inductive Term
  /-- A condition, by the call of its operator or by the call that is given the operator's symbol.
  -/
  | condition (bySymbol : Bool) (op : Operator) (field : String) (value : Value)
  | anyOf (field : String) (values : Value)
  | custom (fragment : Option String)
  /-- An expression between two calls for the brackets, or in a group. -/
  | bracket (grouped : Bool) (inner : Expr)

/-- Terms with a connective between each and the next. -/
inductive Expr
  | term (t : Term)
  | more (e : Expr) (c : Connective) (t : Term)

end

/-! ## Steps -/

mutual

/-- The steps that write the term with the builder of that name. -/
def Term.steps {ι : Type} (i : ι) : Term → List (Step ι)
  | .condition true op field value => [.call i (.compareBy (.text op.symbol) field value)]
  | .condition false op field value => [.call i (.compare op field value)]
  | .anyOf field values => [.call i (.anyOf field values)]
  | .custom fragment => [.call i (.custom fragment)]
  | .bracket true e => [.group i (e.steps i)]
  | .bracket false e => [.call i .openBracket] ++ e.steps i ++ [.call i .closeBracket]

def Expr.steps {ι : Type} (i : ι) : Expr → List (Step ι)
  | .term t => t.steps i
  | .more e c t => e.steps i ++ [.call i (.connect c)] ++ t.steps i

end

/-! ## What is shown -/

mutual

/-- The term without what is absent in it, if anything is left. -/
def Term.shown : Term → Option String
  | .condition _ op field value => Condition.text ⟨field, op, value⟩
  | .anyOf field values => alternativesText field (values.items?.getD [])
  | .custom _ => none
  | .bracket _ e => e.shown.map fun s => "(" ++ s ++ ")"

/-- The connective before a term stays if something is left in front of it. -/
def Expr.shown : Expr → Option String
  | .term t => t.shown
  | .more e c t => Option.merge (fun l r => l ++ c.spaced ++ r) e.shown t.shown

end

mutual

/-- Fields are proper names, values can be written, values of alternatives can be walked over, and
custom fragments hold nothing. -/
def Term.WellFormed : Term → Prop
  | .condition _ _ field value => IsFieldName field.toList ∧ value.Writable
  | .anyOf field values => IsFieldName field.toList ∧
      ∃ items, values.items? = some items ∧ ∀ v ∈ items, v.Writable
  | .custom fragment => fragment = none ∨ fragment = some ""
  | .bracket _ e => e.WellFormed

def Expr.WellFormed : Expr → Prop
  | .term t => t.WellFormed
  | .more e _ t => e.WellFormed ∧ t.WellFormed

end

/-! ## What is written -/

variable {ι : Type} [DecidableEq ι]

mutual

/-- The steps of a term write a text that yields what is shown of the term. -/
theorem Term.exists_writes (i : ι) {t : Term} (h : t.WellFormed) :
    ∃ w, Writes i (t.steps i) w ∧ Yields Expecting w.toList (t.shown.map String.toList) := by
  match t with
  | .condition bySymbol op field value =>
    obtain ⟨hfield, hvalue⟩ : IsFieldName field.toList ∧ value.Writable := h
    refine ⟨_, ?_, Condition.yields (c := ⟨field, op, value⟩) hfield hvalue⟩
    cases bySymbol with
    | false => exact .call (Call.compare_writes op field hvalue) i
    | true => exact .call (Call.compareBy_writes op field hvalue) i
  | .anyOf field values =>
    obtain ⟨hfield, items, hitems, hvalues⟩ : IsFieldName field.toList ∧
      ∃ items, values.items? = some items ∧ ∀ v ∈ items, v.Writable := h
    refine ⟨_, .call (Call.anyOf_writes field hitems hvalues) i, ?_⟩
    simpa [Term.shown, hitems] using yields_alternatives hfield hvalues
  | .custom fragment =>
    have hblank : fragment.getD "" = "" := by
      rcases (h : fragment = none ∨ fragment = some "") with rfl | rfl <;> rfl
    exact ⟨"", .call (Call.custom_writes hblank) i, yields_nothing⟩
  | .bracket grouped e =>
    obtain ⟨w, hwrites, hyields⟩ := Expr.exists_writes i (h : e.WellFormed)
    refine ⟨"(" ++ w ++ ")", ?_, ?_⟩
    · cases grouped with
      | true => exact hwrites.group
      | false =>
        exact ((Writes.call Call.openBracket_writes i).append hwrites).append
          (.call Call.closeBracket_writes i)
    · simpa [Term.shown, Function.comp_def] using hyields.bracket

/-- The steps of an expression write a text that yields what is shown of the expression. -/
theorem Expr.exists_writes (i : ι) {e : Expr} (h : e.WellFormed) :
    ∃ w, Writes i (e.steps i) w ∧ Yields Opening w.toList (e.shown.map String.toList) := by
  match e with
  | .term t =>
    obtain ⟨w, hwrites, hyields⟩ := Term.exists_writes i (h : t.WellFormed)
    exact ⟨w, hwrites, hyields.opening⟩
  | .more e c t =>
    obtain ⟨he, ht⟩ : e.WellFormed ∧ t.WellFormed := h
    obtain ⟨w, hwrites, hyields⟩ := Expr.exists_writes i he
    obtain ⟨w', hwrites', hyields'⟩ := Term.exists_writes i ht
    refine ⟨w ++ c.spaced ++ w', ?_, ?_⟩
    · exact (hwrites.append (.call (Call.connect_writes c) i)).append hwrites'
    · have hjoin := hyields.join hyields' (fun _ σ hσ => hσ.2) c
      have hmap : (Expr.more e c t).shown.map String.toList =
          Option.merge (fun l r => l ++ c.spaced.toList ++ r) (e.shown.map String.toList)
            (t.shown.map String.toList) := by
        cases hshown : e.shown <;> cases hshown' : t.shown <;>
          simp [Expr.shown, hshown, hshown', Option.merge]
      simpa [hmap] using hjoin

end

/-- A text that yields what is shown, or nothing, has that as its normal form. -/
theorem normalize_of_yields {w : String} {shown : Option String}
    (h : Yields Opening w.toList (shown.map String.toList)) : normalize w = shown.getD "" := by
  rw [normalize, normalizeChars_of_yields h]
  cases shown <;> simp

/-- Building after the steps of a well-formed expression on a fresh builder without a constraint
returns what is shown of the expression, and nothing if nothing is left of it. -/
theorem build_expression (e : Expr) (h : e.WellFormed) (i : ι) (s : Bench ι)
    (hs : s i = some (.new .free)) :
    (runScript (e.steps i ++ [.call i .build]) s).answers.getLast? =
      some (.call "" .null (some (e.shown.getD "")) none) := by
  obtain ⟨w, hwrites, hyields⟩ := Expr.exists_writes i h
  rw [hwrites.getLast?_build hs, normalize_of_yields hyields]

/-- An absent group takes the connective before it along, and absent alternatives leave no gap. -/
theorem build_expression_absent_group :
    (runScript ((Expr.more (.more (.term (.condition false .equal "title" (.text "x"))) .and
        (.bracket true (.term (.condition true .like "body" .null)))) .or
        (.bracket false (.term (.anyOf "tags.name" (.list [.text "a", .null, .bool true]))))).steps
          () ++ [.call () .build]) fun _ => some (.new .free)).answers.getLast? =
      some (.call "" .null (some "title=\"x\" || (tags.name~\"a\" || tags.name~true)") none) := by
  have hfield : ∀ x w, isNameStart x = true → w.all isFieldChar = true → IsFieldName (x :: w) :=
    fun x w hx hw => ⟨x, w, .inl rfl, hx, List.all_eq_true.1 hw⟩
  have htitle : IsFieldName "title".toList := hfield 't' _ (by decide) (by decide +kernel)
  have hbody : IsFieldName "body".toList := hfield 'b' _ (by decide) (by decide +kernel)
  have htags : IsFieldName "tags.name".toList := hfield 't' _ (by decide) (by decide +kernel)
  have hvalues : ∀ v ∈ [Value.text "a", .null, .bool true], v.Writable := by
    simp only [List.mem_cons, List.not_mem_nil, or_false]
    rintro v (rfl | rfl | rfl)
    · exact fun _ => ⟨"a", rfl, by decide, by decide⟩
    · exact fun h => by cases h
    · exact fun _ => ⟨"True", rfl, by decide, by decide⟩
  have hx : (Value.text "x").Writable := fun _ => ⟨"x", rfl, by decide, by decide⟩
  have hnull : Value.null.Writable := fun h => by cases h
  refine build_expression _ ?_ () _ rfl
  exact ⟨⟨⟨htitle, hx⟩, hbody, hnull⟩, htags, _, rfl, hvalues⟩

end RecordFilter
