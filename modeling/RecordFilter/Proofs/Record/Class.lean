import RecordFilter.Proofs.Record.Names

/-!
# Names that classes declare

A class annotates names in its body, and what it annotates as a field is accepted: always if no data
class stands behind it, and if it is a data class itself. But a class that is no data class and has
one among its ancestors passes for a data class, and its own annotations count for nothing. Then a
name is accepted if the nearest data class that annotates it says that it is a field. A class made
from a keyed one is spared this: it is no heir of its ancestors, so it does not pass for what they
are, and yet it has all that they annotate.

## Main statements

* `RecordClass.find?_effective`: merged annotations declare what they did before.
* `RecordClass.mem_dataFields_iff`: the fields of the data classes in a lineage.
* `RecordClass.exists_fieldNames`: the names of a class that declares one.
* `declared_field_check`: whether a declared name is accepted.
* `not_forall_declared_field_accepted`: a declared name that is not.
-/

namespace RecordFilter

/-- The annotation of the name that counts in the body of the class, the last one, is that of a
field. -/
def Layer.Declares (l : Layer) (n : String) : Prop :=
  ∃ a, l.body.reverse.find? (·.name = n) = some a ∧ a.isField = true

namespace RecordClass

/-- The nearest data class in the lineage that annotates the name says that it is a field. -/
def InheritsField (c : RecordClass) (n : String) : Prop :=
  ∃ a, (declarations (c.lineage.filter (·.kind = .data))).find? (·.name = n) = some a ∧
    a.isField = true

theorem mem_namesInOrder {layers : List Layer} {n : String} :
    n ∈ namesInOrder layers ↔ ∃ a ∈ declarations layers, a.name = n := by
  simp only [namesInOrder, declarations, List.mem_eraseDups, List.mem_flatMap, List.mem_reverse,
    List.mem_map]
  grind

theorem mem_effective {layers : List Layer} {a : Annotation} :
    a ∈ effective layers ↔ (declarations layers).find? (·.name = a.name) = some a := by
  rw [effective, List.mem_filterMap]
  constructor
  · rintro ⟨n, -, hn⟩
    have hname : a.name = n := by simpa using List.find?_some hn
    rwa [hname]
  · intro h
    exact ⟨a.name, mem_namesInOrder.2 ⟨a, List.mem_of_find?_eq_some h, rfl⟩, h⟩

/-- Of each name one declaration is left, so it is found from either end. -/
theorem find?_effective (layers : List Layer) (n : String) :
    (effective layers).reverse.find? (·.name = n) = (declarations layers).find? (·.name = n) := by
  cases hfirst : (declarations layers).find? (·.name = n) with
  | none =>
    rw [List.find?_eq_none]
    intro a ha hname
    obtain rfl : a.name = n := by simpa using hname
    simp [mem_effective.1 (List.mem_reverse.1 ha)] at hfirst
  | some a =>
    obtain rfl : a.name = n := by simpa using List.find?_some hfirst
    cases hfound : (effective layers).reverse.find? (·.name = a.name) with
    | none =>
      have ha := List.mem_reverse.2 (mem_effective.2 hfirst)
      simpa using List.find?_eq_none.1 hfound a ha
    | some b =>
      have hb := mem_effective.1 (List.mem_reverse.1 (List.mem_of_find?_eq_some hfound))
      have hname : b.name = a.name := by simpa using List.find?_some hfound
      rw [← hb, hname, hfirst]

theorem mem_dataFields_iff {c : RecordClass} {n : String} :
    n ∈ c.dataFields ↔ c.InheritsField n := by
  simp only [dataFields, List.mem_map, List.mem_filter, mem_effective, InheritsField]
  constructor
  · rintro ⟨a, ⟨hfind, hfield⟩, rfl⟩
    exact ⟨a, hfind, hfield⟩
  · rintro ⟨a, hfind, hfield⟩
    have hname : a.name = n := by simpa using List.find?_some hfind
    exact ⟨a, ⟨hname ▸ hfind, hfield⟩, hname⟩

/-! ## The lineage -/

section
variable {c : RecordClass} {n : String}

theorem lineage_of_keyed (h : c.isKeyed = true) :
    c.lineage = [{ c.self with body := effective c.line }] := if_pos h

theorem lineage_of_not_keyed (h : c.isKeyed = false) : c.lineage = c.line := by simp [lineage, h]

/-- What the line declares, the lineage declares. -/
theorem find?_declarations_lineage :
    (declarations c.lineage).find? (·.name = n) = (declarations c.line).find? (·.name = n) := by
  cases h : c.isKeyed with
  | true =>
    rw [lineage_of_keyed h, declarations, List.flatMap_singleton]
    exact find?_effective c.line n
  | false => rw [lineage_of_not_keyed h]

/-- What the class itself declares comes first. -/
theorem find?_declarations_line {a : Annotation}
    (h : c.self.body.reverse.find? (·.name = n) = some a) :
    (declarations c.line).find? (·.name = n) = some a := by
  rw [line, declarations, List.flatMap_cons, List.find?_append, h]
  rfl

theorem mem_namesInOrder_lineage (hn : c.self.Declares n) : n ∈ namesInOrder c.lineage := by
  obtain ⟨a, hfind, -⟩ := hn
  have hfound := find?_declarations_lineage.trans (find?_declarations_line hfind)
  have hname : a.name = n := by simpa using List.find?_some hfound
  exact mem_namesInOrder.2 ⟨a, List.mem_of_find?_eq_some hfound, hname⟩

/-- The own annotations of the class count: it is a data class or a keyed one, or none of its
ancestors is a data class. -/
def CountsOwn (c : RecordClass) : Prop :=
  c.self.kind = .data ∨ c.isKeyed = true ∨ ∀ l ∈ c.ancestors, l.kind ≠ .data

theorem isData_iff : c.isData = true ↔
    c.self.kind = .data ∨ c.isKeyed = false ∧ ∃ l ∈ c.ancestors, l.kind = .data := by
  cases h : c.isKeyed with
  | true => simp [isData, lineage_of_keyed h]
  | false => simp [isData, lineage_of_not_keyed h, line]

/-- A data class has the fields that its own body declares. -/
theorem inheritsField_of_declares (hn : c.self.Declares n) (hdata : c.self.kind = .data) :
    c.InheritsField n := by
  obtain ⟨a, hfind, hfield⟩ := hn
  refine ⟨a, ?_, hfield⟩
  cases h : c.isKeyed with
  | true =>
    have hkept : c.lineage.filter (·.kind = .data) = c.lineage := by
      simp [lineage_of_keyed h, hdata]
    rw [hkept, find?_declarations_lineage, find?_declarations_line hfind]
  | false =>
    rw [lineage_of_not_keyed h, line, List.filter_cons_of_pos (by simpa using hdata), declarations,
      List.flatMap_cons, List.find?_append, hfind]
    rfl

/-- A class that declares a field has names, and the field is one of them if the class's own
annotations count, or if it inherits the field. -/
theorem exists_fieldNames (hmodel : c.isModel = false) (hn : c.self.Declares n) :
    ∃ names, c.fieldNames = .ok names ∧ (n ∈ names ↔ c.CountsOwn ∨ c.InheritsField n) := by
  unfold fieldNames
  rw [if_neg (by simp [hmodel])]
  cases hdata : c.isData with
  | true =>
    refine ⟨c.dataFields, rfl, ?_⟩
    rw [mem_dataFields_iff]
    refine ⟨.inr, ?_⟩
    rintro (hown | hfield)
    · rcases isData_iff.1 hdata with hself | ⟨hkeyed, l, hl, hkind⟩
      · exact inheritsField_of_declares hn hself
      · rcases hown with hself | hkeyed' | hnone
        · exact inheritsField_of_declares hn hself
        · simp [hkeyed] at hkeyed'
        · exact absurd hkind (hnone l hl)
    · exact hfield
  | false =>
    have hmem := mem_namesInOrder_lineage hn
    have hcounts : c.CountsOwn := by
      cases hkeyed : c.isKeyed with
      | true => exact .inr (.inl hkeyed)
      | false =>
        refine .inr (.inr fun l hl hkind => ?_)
        simp [isData_iff.2 (.inr ⟨hkeyed, l, hl, hkind⟩)] at hdata
    cases hnames : namesInOrder c.lineage with
    | nil => simp [hnames] at hmem
    | cons m names => exact ⟨m :: names, rfl, by simp [← hnames, hmem, hcounts]⟩

end

end RecordClass

/-- A constraint can be made from a class that declares a field, and it accepts the field, and paths
that go on from it, if the own annotations of the class count. If they do not, because the class is
neither a data class nor keyed and has a data class among its ancestors, it accepts the field if one
of these declares it. -/
theorem declared_field_check {c : RecordClass} {n : String} (hmodel : c.isModel = false)
    (hn : c.self.Declares n) (hroot : ∀ x ∈ n.toList, ¬ IsSeparator x) :
    ∃ k, Constraint.ofShape? (some (.ofClass c)) = .ok k ∧
      ∀ suffix, suffix = "" ∨ IsPathSuffix suffix → (k.refusal? (n ++ suffix) = none ↔
        c.CountsOwn ∨ c.InheritsField n ∨ n ∈ systemFields ∨ n.toList.head? = some '@') := by
  obtain ⟨names, hnames, hmem⟩ := RecordClass.exists_fieldNames hmodel hn
  refine ⟨.ofNames names, Constraint.ofShape?_eq hnames, fun suffix hsuffix => ?_⟩
  have hself : IsRoot n n := ⟨List.prefix_rfl, hroot, fun u hu _ => hu⟩
  have hcheck : (Constraint.ofNames names).accepts (n ++ suffix) =
      (Constraint.ofNames names).accepts n := by
    rcases hsuffix with rfl | hsuffix
    · rw [String.append_empty]
    · exact Constraint.accepts_append _ hsuffix n
  rw [Constraint.refusal?_eq_none_iff, hcheck, Constraint.accepts_ofNames_iff, Allows]
  simp only [isRoot_iff, ← isRoot_iff.1 hself, exists_eq_left, hmem]
  tauto

/-- A class that annotates a name, behind a data class that is itself made from a keyed one. -/
theorem declared_field_check_behind_keyed :
    ∃ k, Constraint.ofShape? (some (.ofClass ⟨⟨.annotated, "Page", [⟨"extra", none, none, true⟩]⟩,
        [⟨.data, "Task", [⟨"name", none, none, true⟩]⟩,
          ⟨.keyed, "Tag", [⟨"label", none, none, true⟩]⟩]⟩)) = .ok k ∧
      k.refusal? ("extra" ++ ":length") = none := by
  obtain ⟨k, hk, hcheck⟩ := declared_field_check (c := ⟨⟨.annotated, "Page",
    [⟨"extra", none, none, true⟩]⟩, [⟨.data, "Task", [⟨"name", none, none, true⟩]⟩,
      ⟨.keyed, "Tag", [⟨"label", none, none, true⟩]⟩]⟩)
    (n := "extra") (by decide) ⟨_, rfl, rfl⟩ (by simp [IsSeparator])
  have hcounts : RecordClass.CountsOwn ⟨⟨.annotated, "Page", [⟨"extra", none, none, true⟩]⟩,
      [⟨.data, "Task", [⟨"name", none, none, true⟩]⟩,
        ⟨.keyed, "Tag", [⟨"label", none, none, true⟩]⟩]⟩ := .inr (.inl (by decide))
  exact ⟨k, hk, (hcheck ":length" (.inr ⟨':', "length".toList, rfl, .inr rfl⟩)).2 (.inl hcounts)⟩

/-- A class behind a data class declares a field that is not accepted. -/
theorem not_forall_declared_field_accepted :
    ¬ ∀ (c : RecordClass) (n : String), c.isModel = false → c.self.Declares n →
      (∀ x ∈ n.toList, ¬ IsSeparator x) →
      ∃ k, Constraint.ofShape? (some (.ofClass c)) = .ok k ∧ k.refusal? n = none := by
  intro h
  obtain ⟨k, hk, hcheck⟩ := h ⟨⟨.annotated, "Page", [⟨"extra", none, none, true⟩]⟩,
    [⟨.data, "Task", [⟨"name", none, none, true⟩]⟩]⟩ "extra" (by decide) ⟨_, rfl, rfl⟩
    (by simp [IsSeparator])
  obtain rfl : .ofNames ["name"] = k := Except.ok.inj hk
  revert hcheck
  decide +kernel

end RecordFilter
