import RecordFilter.Proofs.Condition
import RecordFilter.Script

/-!
# What calls and scripts write

A call that succeeds on a builder without a constraint leaves it without one and adds a text to its
query that does not depend on the builder. The same holds of a row of such calls and of a group of
them, so what a script writes can be said without mentioning builders.

## Main statements

* `Call.compare_writes`, `Call.anyOf_writes`: what calls with conditions write.
* `Writes.append`, `Writes.group`: what scripts built from smaller ones write.
* `runScript_bench_eq`: steps that do not fail do the same at the top of a script as in a group.
-/

namespace RecordFilter

open RecordFilter.Normal RecordFilter.Normal.Reader

namespace Builder

variable (b : Builder)

@[simp] theorem query_append (w : String) : (b.append w).query = b.query ++ w := by
  simp [query, append, String.join]

@[simp] theorem query_appendAll (ws : List String) :
    (b.appendAll ws).query = b.query ++ String.join ws := by
  simp [query, appendAll, String.join_append]

@[simp] theorem query_withLast (v : Value) : (b.withLast v).query = b.query := rfl

end Builder

@[simp] theorem Constraint.refusal?_free (field : String) : free.refusal? field = none := rfl

/-! ## Calls -/

/-- Every builder without a constraint takes the call and adds the text to its query. -/
def Call.Writes (c : Call) (w : String) : Prop :=
  ∀ b : Builder, b.constraint = .free → (c.run b).error = none ∧
    (c.run b).builder.constraint = .free ∧ (c.run b).builder.query = b.query ++ w

namespace Call

theorem connect_writes (c : Connective) : (connect c).Writes c.spaced :=
  fun b hb => ⟨rfl, hb, b.query_append c.spaced⟩

theorem openBracket_writes : openBracket.Writes "(" := fun b hb => ⟨rfl, hb, b.query_append "("⟩

theorem closeBracket_writes : closeBracket.Writes ")" := fun b hb => ⟨rfl, hb, b.query_append ")"⟩

theorem custom_writes {fragment : Option String} (h : fragment.getD "" = "") :
    (custom fragment).Writes "" := by
  intro b hb
  cases fragment with
  | none => exact ⟨rfl, hb, by simp [run, Outcome.done, Builder.custom]⟩
  | some text =>
    obtain rfl : text = "" := h
    exact ⟨rfl, hb, by simp [run, Outcome.done, Builder.custom]⟩

/-- A condition on a writable value writes its text. -/
theorem compare_writes (op : Operator) (field : String) {value : Value} (h : value.Writable) :
    (compare op field value).Writes ((Condition.text ⟨field, op, value⟩).getD "") := by
  intro b hb
  have hwrite := Condition.write_eq (c := ⟨field, op, value⟩) h
  simp only [run, Builder.compare, hb, Constraint.refusal?_free, hwrite]
  split
  · next heq => cases heq
  · next heq =>
    rw [Except.ok.inj heq]
    exact ⟨rfl, hb, by simp [Outcome.done]⟩
  · next heq =>
    rw [Except.ok.inj heq]
    exact ⟨rfl, hb, by simp [Outcome.done]⟩

/-- The call that is given the symbol of an operator does what the call of the operator does. -/
theorem compareBy_writes (op : Operator) (field : String) {value : Value} (h : value.Writable) :
    (compareBy (.text op.symbol) field value).Writes
      ((Condition.text ⟨field, op, value⟩).getD "") := by
  have hop : Operator.ofSymbol (.text op.symbol) = .ok op := by cases op <;> rfl
  intro b hb
  have hrun : (compareBy (.text op.symbol) field value).run b = (compare op field value).run b := by
    simp [run, hop]
  rw [hrun]
  exact compare_writes op field h b hb

end Call

/-! ## Alternatives -/

/-- The texts of the conditions that ask the field to be like one of the values. -/
def alternativeTexts (field : String) (vs : List Value) : List String :=
  vs.filterMap fun v => Condition.text ⟨field, .like, v⟩

/-- What is shown of them, if any value is present. -/
def alternativesText (field : String) (vs : List Value) : Option String :=
  match alternativeTexts field vs with
  | [] => none
  | texts => some (Connective.or.spaced.intercalate texts)

theorem alternativesText_getD (field : String) (vs : List Value) :
    (alternativesText field vs).getD "" =
      Connective.or.spaced.intercalate (alternativeTexts field vs) := by
  unfold alternativesText
  split
  · next h => simp [h]
  · rfl

/-- Absent values have no text. -/
theorem alternativeTexts_filter (field : String) (vs : List Value) :
    alternativeTexts field (vs.filter Value.isPresent) = alternativeTexts field vs := by
  rw [alternativeTexts, List.filterMap_filter, alternativeTexts]
  congr 1
  funext v
  cases hv : v.isPresent <;> simp [Condition.text, Condition.isPresent, hv]

theorem intercalate_cons_eq (sep t : String) (ts : List String) :
    sep.intercalate (t :: ts) = t ++ String.join (ts.map (sep ++ ·)) := by
  induction ts generalizing t with
  | nil => simp
  | cons u ts ih => simp [String.intercalate_cons_cons, ih, String.append_assoc]

/-- The fragments of alternatives, all of which can be written. -/
theorem alternatives_eq (field : String) {vs : List Value} (h : ∀ v ∈ vs, v.Writable)
    (hpresent : ∀ v ∈ vs, v.isPresent = true) (first : Bool) :
    (Builder.alternatives field first vs).2 = none ∧
      String.join (Builder.alternatives field first vs).1 =
        if first then Connective.or.spaced.intercalate (alternativeTexts field vs)
        else String.join ((alternativeTexts field vs).map (Connective.or.spaced ++ ·)) := by
  induction vs generalizing first with
  | nil => cases first <;> simp [Builder.alternatives, alternativeTexts]
  | cons v vs ih =>
    obtain ⟨lit, hlit, -⟩ := (h v (by simp)).exists_literal (hpresent v (by simp))
    have htext : Condition.text ⟨field, .like, v⟩ =
        some (field ++ Operator.like.symbol ++ lit) := by
      simp [Condition.text, Condition.isPresent, hpresent v (by simp), hlit]
    have hwrite := Condition.write_eq (c := ⟨field, .like, v⟩) (h v (by simp))
    obtain ⟨herror, hjoin⟩ := ih (fun w hw => h w (by simp [hw]))
      (fun w hw => hpresent w (by simp [hw])) false
    rw [htext] at hwrite
    have htexts : alternativeTexts field (v :: vs) =
        (field ++ Operator.like.symbol ++ lit) :: alternativeTexts field vs := by
      simp [alternativeTexts, htext]
    simp only [Builder.alternatives, hwrite, Option.getD_some, htexts]
    refine ⟨herror, ?_⟩
    cases first <;> simp_all [intercalate_cons_eq, String.append_assoc]

/-- A call with alternatives writes what is shown of them. -/
theorem Call.anyOf_writes (field : String) {values : Value} {items : List Value}
    (hitems : values.items? = some items) (h : ∀ v ∈ items, v.Writable) :
    (anyOf field values).Writes ((alternativesText field items).getD "") := by
  intro b hb
  have hsub : ∀ v ∈ items.filter Value.isPresent, v.Writable :=
    fun v hv => h v (List.mem_filter.1 hv).1
  have hpresent : ∀ v ∈ items.filter Value.isPresent, v.isPresent = true :=
    fun v hv => (List.mem_filter.1 hv).2
  obtain ⟨herror, hjoin⟩ := alternatives_eq field hsub hpresent true
  rw [alternativeTexts_filter, if_pos rfl, ← alternativesText_getD] at hjoin
  simp only [run, Builder.anyOf, hb, Constraint.refusal?_free, hitems, herror]
  exact ⟨rfl, hb, by simp [Outcome.done, hjoin]⟩

/-- More alternatives behind a text that is kept are kept. -/
theorem yields_append_alternatives {w : String} (hw : Yields Expecting w.toList (some w.toList))
    {ts : List String} (hts : ∀ t ∈ ts, Yields Expecting t.toList (some t.toList)) :
    Yields Expecting (w ++ String.join (ts.map (Connective.or.spaced ++ ·))).toList
      (some (w ++ String.join (ts.map (Connective.or.spaced ++ ·))).toList) := by
  induction ts generalizing w with
  | nil => simpa using hw
  | cons t ts ih =>
    have hjoin := hw.join (hts t (by simp)) (by simp) .or
    have hnext : Yields Expecting (w ++ Connective.or.spaced ++ t).toList
        (some (w ++ Connective.or.spaced ++ t).toList) := by
      simpa [Option.merge] using hjoin
    simpa [String.append_assoc] using ih hnext fun u hu => hts u (by simp [hu])

/-- Alternatives are kept, with a connective between each and the next. -/
theorem yields_alternatives {field : String} (hf : IsFieldName field.toList) {items : List Value}
    (h : ∀ v ∈ items, v.Writable) :
    Yields Expecting ((alternativesText field items).getD "").toList
      ((alternativesText field items).map String.toList) := by
  have hall : ∀ t ∈ alternativeTexts field items, Yields Expecting t.toList (some t.toList) := by
    intro t ht
    obtain ⟨v, hv, htext⟩ := List.mem_filterMap.1 ht
    simpa [htext] using Condition.yields (c := ⟨field, .like, v⟩) hf (h v hv)
  unfold alternativesText
  cases htexts : alternativeTexts field items with
  | nil => exact yields_nothing
  | cons t ts =>
    rw [htexts] at hall
    simpa [intercalate_cons_eq] using
      yields_append_alternatives (hall t (by simp)) fun u hu => hall u (by simp [hu])

/-! ## Scripts -/

variable {ι : Type} [DecidableEq ι]

@[simp] theorem Bench.put_self (s : Bench ι) (i : ι) (b : Builder) : s.put i b i = some b := by
  simp [Bench.put]

theorem runBlock_append {steps : List (Step ι)} {s : Bench ι} (h : (runBlock steps s).error = none)
    (steps' : List (Step ι)) :
    (runBlock (steps ++ steps') s).bench = (runBlock steps' (runBlock steps s).bench).bench ∧
      (runBlock (steps ++ steps') s).error = (runBlock steps' (runBlock steps s).bench).error := by
  induction steps generalizing s with
  | nil => exact ⟨rfl, rfl⟩
  | cons step steps ih =>
    cases herror : (step.run s).answer.error with
    | some e => simp [runBlock, herror] at h
    | none =>
      simp only [runBlock, herror] at h
      simp only [List.cons_append, runBlock, herror]
      exact ih h

/-- At the top of a script, steps that do not fail do what they do in a group. -/
theorem runScript_bench_eq {steps : List (Step ι)} {s : Bench ι}
    (h : (runBlock steps s).error = none) :
    (runScript steps s).bench = (runBlock steps s).bench := by
  induction steps generalizing s with
  | nil => rfl
  | cons step steps ih =>
    cases herror : (step.run s).answer.error with
    | some e => simp [runBlock, herror] at h
    | none =>
      simp only [runBlock, herror] at h
      simp only [runScript, runBlock, herror]
      exact ih h

theorem runScript_append (steps steps' : List (Step ι)) (s : Bench ι) :
    (runScript (steps ++ steps') s).answers =
      (runScript steps s).answers ++ (runScript steps' (runScript steps s).bench).answers := by
  induction steps generalizing s with
  | nil => rfl
  | cons step steps ih => simp [runScript, ih]

/-- Building answers with the normalized query and leaves an empty one. -/
theorem Step.answer_build {s : Bench ι} {i : ι} {b : Builder} (h : s i = some b) :
    ((Step.call i .build).run s).answer = .call "" .null (some (normalize b.query)) none := by
  simp only [Step.run, h, Call.run]
  rfl

/-- On a bench where the builder of that name has no constraint, the steps run without an error and
add the text to its query. -/
def Writes (i : ι) (steps : List (Step ι)) (w : String) : Prop :=
  ∀ (s : Bench ι) b, s i = some b → b.constraint = .free → (runBlock steps s).error = none ∧
    ∃ b', (runBlock steps s).bench i = some b' ∧ b'.constraint = .free ∧ b'.query = b.query ++ w

namespace Writes

variable {i : ι} {steps steps' : List (Step ι)} {w w' : String}

theorem nil (i : ι) : Writes i [] "" := fun s b hb hfree => ⟨rfl, b, hb, hfree, by simp⟩

theorem append (h : Writes i steps w) (h' : Writes i steps' w') :
    Writes i (steps ++ steps') (w ++ w') := by
  intro s b hb hfree
  obtain ⟨herror, b', hb', hfree', hquery⟩ := h s b hb hfree
  obtain ⟨herror', b'', hb'', hfree'', hquery'⟩ := h' _ b' hb' hfree'
  obtain ⟨hbench, herrors⟩ := runBlock_append herror steps'
  refine ⟨herrors.trans herror', b'', by rw [hbench, hb''], hfree'', ?_⟩
  rw [hquery', hquery, String.append_assoc]

theorem call {c : Call} (h : c.Writes w) (i : ι) : Writes i [.call i c] w := by
  intro s b hb hfree
  obtain ⟨herror, hfree', hquery⟩ := h b hfree
  have herror' : ((Step.call i c).run s).answer.error = none := by
    simpa [Step.run, hb, Answer.error] using herror
  refine ⟨by simp [runBlock, herror'], (c.run b).builder, ?_, hfree', hquery⟩
  simp [runBlock, Step.run, hb, herror, Answer.error]

theorem group (h : Writes i steps w) : Writes i [.group i steps] ("(" ++ w ++ ")") := by
  intro s b hb hfree
  obtain ⟨herror, b', hb', hfree', hquery⟩ :=
    h (s.put i b.openBracket) b.openBracket (by simp) hfree
  have herror' : ((Step.group i steps).run s).answer.error = none := by
    simpa [Step.run, hb, Answer.error] using herror
  refine ⟨by simp [runBlock, herror'], b'.closeBracket, ?_, hfree', ?_⟩
  · simp [runBlock, Step.run, hb, herror, hb', Answer.error]
  · simp [Builder.closeBracket, hquery, Builder.openBracket, String.append_assoc]

/-- Building after the steps on a fresh builder without a constraint returns the normal form of what
they write. -/
theorem getLast?_build (h : Writes i steps w) {s : Bench ι} (hs : s i = some (.new .free)) :
    (runScript (steps ++ [.call i .build]) s).answers.getLast? =
      some (.call "" .null (some (normalize w)) none) := by
  obtain ⟨herror, b, hb, -, hquery⟩ := h s _ hs rfl
  have hempty : (Builder.new .free).query = "" := rfl
  rw [hempty, String.empty_append] at hquery
  rw [runScript_append, runScript_bench_eq herror, runScript, Step.answer_build hb, hquery]
  simp [runScript]

end Writes

end RecordFilter
