import RecordFilter.Proofs.Formula
import RecordFilter.Proofs.Script.Constraint
import RecordFilter.Proofs.Script.Expression

/-!
# What is built can be read back

What is left of an expression when its absent terms are pruned is a formula, and what is built from
the expression is the text of the formula. Since no two formulas have the same text, the filter that
was built says which conditions were made, in which order, and how they were joined and bracketed:
two expressions never share a filter unless they differ in absent terms only, or in the calls that
the same conditions were made with.

## Main statements

* `Expr.shown_map_toList`: what is shown of an expression is the text of its formula.
* `build_eq_iff_pruned_eq`: when two expressions build the same filter.
-/

namespace RecordFilter

open RecordFilter.Normal

/-! ## Conditions -/

/-- What a condition on the value compares with; nothing if the value is absent. -/
def Value.toLiteral? : Value → Option Literal
  | bool b => some (.flag b)
  | v => if v.isPresent then v.plain?.map .quoted else none

/-- The condition without the kind of its value; nothing if the value is absent. -/
def Condition.comparison? (c : Condition) : Option Comparison :=
  c.value.toLiteral?.map fun l => ⟨c.field, c.operator, l⟩

theorem Value.literal?_map_toList {v : Value} (h : v.isPresent = true) :
    v.literal?.map String.toList = v.toLiteral?.map Literal.chars := by
  cases v with
  | bool b => rfl
  | _ => simp [literal?, toLiteral?, h, Literal.chars, Function.comp_def]

theorem Value.toLiteral?_of_absent {v : Value} (h : v.isPresent = false) : v.toLiteral? = none := by
  cases v with
  | bool b => cases h
  | _ => simp [toLiteral?, h]

theorem Value.Writable.proper {v : Value} (h : v.Writable) : ∀ l ∈ v.toLiteral?, l.Proper := by
  intro l hl
  cases hv : v.isPresent with
  | false => simp [toLiteral?_of_absent hv] at hl
  | true =>
    obtain ⟨t, ht, hquote, -⟩ := h hv
    cases v with
    | bool b =>
      cases hl
      trivial
    | _ =>
      simp only [toLiteral?, hv, ht, if_true, Option.map_some, Option.mem_some_iff] at hl
      rw [← hl]
      exact hquote

namespace Condition

theorem text_map_toList (c : Condition) :
    c.text.map String.toList = c.comparison?.map Comparison.chars := by
  cases h : c.value.isPresent with
  | false => simp [text, isPresent, comparison?, h, Value.toLiteral?_of_absent h]
  | true =>
    have hlit := Value.literal?_map_toList h
    simp only [text, isPresent, comparison?, h, if_true, Option.map_map]
    cases hl : c.value.literal? <;> cases hl' : c.value.toLiteral? <;>
      simp_all [Comparison.chars]

theorem proper_comparison? {c : Condition} (hf : IsFieldName c.field.toList)
    (hv : c.value.Writable) : ∀ d ∈ c.comparison?, d.Proper := by
  intro d hd
  obtain ⟨l, hl, rfl⟩ := Option.map_eq_some_iff.1 hd
  exact ⟨hf, hv.proper l hl⟩

end Condition

/-! ## Expressions -/

/-- The conditions that ask the field to be like one of the values, without the absent ones. -/
def alternativeFactors (field : String) (vs : List Value) : List Factor :=
  vs.filterMap fun v => (Condition.comparison? ⟨field, .like, v⟩).map .comparison

mutual

/-- What is left of the term without what is absent in it. Alternatives stand in the row around
them, without brackets of their own. -/
def Term.pruned : Term → Option Formula
  | .condition _ op field value =>
    (Condition.comparison? ⟨field, op, value⟩).map fun c => .factor (.comparison c)
  | .anyOf field values => Formula.oneOf? (alternativeFactors field (values.items?.getD []))
  | .custom _ => none
  | .bracket _ e => e.pruned.map fun p => .factor (.bracket p)

/-- The connective before a term stays if something is left in front of it. -/
def Expr.pruned : Expr → Option Formula
  | .term t => t.pruned
  | .more e c t => Option.merge (fun p q => p.join c q) e.pruned t.pruned

end

theorem alternativeTexts_map_toList (field : String) (vs : List Value) :
    (alternativeTexts field vs).map String.toList =
      (alternativeFactors field vs).map Factor.chars := by
  rw [alternativeTexts, alternativeFactors, List.map_filterMap, List.map_filterMap]
  congr 1
  funext v
  rw [Condition.text_map_toList, Option.map_map]
  rfl

theorem alternativesText_map_toList (field : String) (vs : List Value) :
    (alternativesText field vs).map String.toList =
      (Formula.oneOf? (alternativeFactors field vs)).map Formula.chars := by
  have htexts := alternativeTexts_map_toList field vs
  unfold alternativesText
  cases hs : alternativeTexts field vs with
  | nil =>
    rw [hs] at htexts
    rw [List.map_eq_nil_iff.1 htexts.symm]
    rfl
  | cons t ts =>
    rw [hs] at htexts
    obtain ⟨f, fs, hfs, hf, hmap⟩ := List.map_eq_cons_iff.1 htexts.symm
    rw [hfs, Formula.chars_oneOf?, hf]
    have hjoin : (String.join (ts.map (Connective.or.spaced ++ ·))).toList =
        fs.flatMap fun g => Connective.or.spaced.toList ++ g.chars := by
      calc (String.join (ts.map (Connective.or.spaced ++ ·))).toList
          = (ts.map String.toList).flatMap fun w => Connective.or.spaced.toList ++ w := by
            simp [String.toList_join, List.flatMap_map]
        _ = (fs.map Factor.chars).flatMap fun w => Connective.or.spaced.toList ++ w := by rw [hmap]
        _ = _ := List.flatMap_map ..
    simp [intercalate_cons_eq, hjoin]

mutual

theorem Term.shown_map_toList (t : Term) :
    t.shown.map String.toList = t.pruned.map Formula.chars := by
  match t with
  | .condition bySymbol op field value =>
    rw [Term.shown, Term.pruned, Condition.text_map_toList, Option.map_map]
    rfl
  | .anyOf field values => exact alternativesText_map_toList field _
  | .custom fragment => rfl
  | .bracket grouped e =>
    have he := e.shown_map_toList
    rw [Term.shown, Term.pruned]
    cases hs : e.shown <;> cases hp : e.pruned <;> simp_all [Formula.chars, Factor.chars]

/-- What is shown of an expression is the text of what is left of it. -/
theorem Expr.shown_map_toList (e : Expr) :
    e.shown.map String.toList = e.pruned.map Formula.chars := by
  match e with
  | .term t => exact t.shown_map_toList
  | .more e c t =>
    have he := e.shown_map_toList
    have ht := t.shown_map_toList
    rw [Expr.shown, Expr.pruned]
    cases hs : e.shown <;> cases hp : e.pruned <;> cases hs' : t.shown <;> cases hp' : t.pruned <;>
      simp_all [Formula.chars_join]

end

mutual

theorem Term.WellFormed.proper {t : Term} (h : t.WellFormed) : ∀ p ∈ t.pruned, p.Proper := by
  match t with
  | .condition bySymbol op field value =>
    obtain ⟨hfield, hvalue⟩ : IsFieldName field.toList ∧ value.Writable := h
    intro p hp
    obtain ⟨c, hc, rfl⟩ := Option.map_eq_some_iff.1 hp
    exact Condition.proper_comparison? (c := ⟨field, op, value⟩) hfield hvalue c hc
  | .anyOf field values =>
    obtain ⟨hfield, items, hitems, hvalues⟩ : IsFieldName field.toList ∧
      ∃ items, values.items? = some items ∧ ∀ v ∈ items, v.Writable := h
    refine Formula.proper_oneOf? fun f hf => ?_
    rw [hitems, Option.getD_some] at hf
    obtain ⟨v, hv, hf⟩ := List.mem_filterMap.1 hf
    obtain ⟨c, hc, rfl⟩ := Option.map_eq_some_iff.1 hf
    exact Condition.proper_comparison? (c := ⟨field, .like, v⟩) hfield (hvalues v hv) c hc
  | .custom fragment => nofun
  | .bracket grouped e =>
    intro p hp
    obtain ⟨q, hq, rfl⟩ := Option.map_eq_some_iff.1 hp
    exact Expr.WellFormed.proper (h : e.WellFormed) q hq

/-- What is left of a well-formed expression is a proper formula. -/
theorem Expr.WellFormed.proper {e : Expr} (h : e.WellFormed) : ∀ p ∈ e.pruned, p.Proper := by
  match e with
  | .term t => exact Term.WellFormed.proper (h : t.WellFormed)
  | .more e c t =>
    obtain ⟨he, ht⟩ : e.WellFormed ∧ t.WellFormed := h
    have he := Expr.WellFormed.proper he
    have ht := Term.WellFormed.proper ht
    rw [Expr.pruned]
    cases hp : e.pruned <;> cases hq : t.pruned <;> simp_all [Formula.proper_join]

end

/-- Formulas, or their absence, can be told apart by their texts. -/
theorem Formula.elim_chars_inj {p q : Option Formula} (hp : ∀ f ∈ p, f.Proper)
    (hq : ∀ f ∈ q, f.Proper) :
    (p.map Formula.chars).getD [] = (q.map Formula.chars).getD [] ↔ p = q := by
  cases p with
  | none =>
    cases q with
    | none => simp
    | some f => simp [Ne.symm f.chars_ne_nil]
  | some f =>
    cases q with
    | none => simp [f.chars_ne_nil]
    | some g => simpa using Formula.chars_inj (hp f rfl) (hq g rfl)

/-- The same is shown of two expressions if and only if the same is left of them. -/
theorem Expr.shown_inj {e e' : Expr} (h : e.WellFormed) (h' : e'.WellFormed) :
    e.shown.getD "" = e'.shown.getD "" ↔ e.pruned = e'.pruned := by
  have hchars : ∀ e : Expr, (e.shown.getD "").toList = (e.pruned.map Formula.chars).getD [] := by
    intro e
    rw [← e.shown_map_toList]
    cases e.shown <;> rfl
  rw [← String.toList_inj, hchars, hchars]
  exact Formula.elim_chars_inj h.proper h'.proper

/-! ## Builds -/

section
variable {ι κ : Type} [DecidableEq ι] [DecidableEq κ]

/-- Building after the steps of a well-formed expression on a fresh builder that accepts its fields
returns what is shown of it. -/
theorem Expr.WellFormed.getLast?_build {e : Expr} (h : e.WellFormed) {i : ι} {s : Bench ι}
    {k : Constraint} (hs : s i = some (.new k)) (hk : BlockAccepted s.constraints (e.steps i)) :
    (runScript (e.steps i ++ [.call i .build]) s).answers.getLast? =
      some (.call "" .null (some (e.shown.getD "")) none) := by
  obtain ⟨w, hwrites, hyields⟩ := Expr.exists_writes i h
  rw [hwrites.getLast?_build_of_accepted hs hk, normalize_of_yields hyields]

/-- Two well-formed expressions, each on a fresh builder that accepts its fields, build the same
filter if and only if the same formula is left of them: the same comparisons in the same order, with
the same connectives and brackets. -/
theorem build_eq_iff_pruned_eq {e e' : Expr} (h : e.WellFormed) (h' : e'.WellFormed) {i : ι} {j : κ}
    {s : Bench ι} {t : Bench κ} {k l : Constraint} (hs : s i = some (.new k))
    (ht : t j = some (.new l)) (hk : BlockAccepted s.constraints (e.steps i))
    (hl : BlockAccepted t.constraints (e'.steps j)) :
    ∃ r r', (runScript (e.steps i ++ [.call i .build]) s).answers.getLast? =
        some (.call "" .null (some r) none) ∧
      (runScript (e'.steps j ++ [.call j .build]) t).answers.getLast? =
        some (.call "" .null (some r') none) ∧
      (r = r' ↔ e.pruned = e'.pruned) :=
  ⟨_, _, h.getLast?_build hs hk, h'.getLast?_build ht hl, Expr.shown_inj h h'⟩

end

/-- Alternatives build what a row of comparisons builds, but a boolean is not the text that spells
it. -/
theorem build_ne_of_flag :
    ∃ r r', (runScript ((Expr.term (.anyOf "tags.name" (.list [.text "a", .null,
          .bool true]))).steps () ++ [.call () .build])
        fun _ => some (.new (.ofNames ["tags"]))).answers.getLast? =
        some (.call "" .null (some r) none) ∧
      (runScript ((Expr.more (.term (.condition false .like "tags.name" (.text "a"))) .or
          (.condition true .like "tags.name" (.text "true"))).steps 'q' ++ [.call 'q' .build])
        fun _ => some (.new .free)).answers.getLast? = some (.call "" .null (some r') none) ∧
      r ≠ r' := by
  have htags : IsFieldName "tags.name".toList :=
    ⟨'t', "ags.name".toList, .inl rfl, by decide, List.all_eq_true.1 (by decide +kernel)⟩
  have ha : (Value.text "a").Writable := fun _ => ⟨"a", rfl, by decide, by decide⟩
  have htext : (Value.text "true").Writable := fun _ => ⟨"true", rfl, by decide, by decide⟩
  have hvalues : ∀ v ∈ [Value.text "a", .null, .bool true], v.Writable := by
    simp only [List.mem_cons, List.not_mem_nil, or_false]
    rintro v (rfl | rfl | rfl)
    · exact ha
    · exact fun h => by cases h
    · exact fun _ => ⟨"True", rfl, by decide, by decide⟩
  have haccepted : (Constraint.ofNames ["tags"]).accepts "tags.name" = true := by decide +kernel
  have halternatives : (Expr.term (.anyOf "tags.name" (.list [.text "a", .null,
      .bool true]))).WellFormed := ⟨htags, _, rfl, hvalues⟩
  have hrow : (Expr.more (.term (.condition false .like "tags.name" (.text "a"))) .or
      (.condition true .like "tags.name" (.text "true"))).WellFormed := ⟨⟨htags, ha⟩, htags, htext⟩
  obtain ⟨r, r', hr, hr', hiff⟩ := build_eq_iff_pruned_eq halternatives hrow (i := ()) (j := 'q')
    (s := fun _ => some (.new (.ofNames ["tags"]))) (t := fun _ => some (.new .free)) rfl rfl
    ⟨fun l hl => by cases hl; exact haccepted, trivial⟩
    ⟨fun l hl => by cases hl; rfl, fun _ _ => trivial, fun l hl => by cases hl; rfl, trivial⟩
  refine ⟨r, r', hr, hr', fun heq => ?_⟩
  have hpruned := hiff.1 heq
  cases hpruned

end RecordFilter
