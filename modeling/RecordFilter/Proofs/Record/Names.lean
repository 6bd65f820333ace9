import Mathlib.Data.List.Sort
import Mathlib.Data.List.TakeWhile
import RecordFilter.Proofs.Mistake
import RecordFilter.Proofs.Text.Quoted

/-!
# Names that fields come from

Names can be given in many ways: as a row, as a set, as the keys of a mapping or of a record, in any
order and any number of times. The constraint they make shows nothing of this: it holds the names in
increasing order, each once, beside those that every record has. And of a field it asks for the root
alone, the longest part at the front without a point or a colon, unless the field is a macro.

## Main statements

* `nameSet_congr`: what a set of names is made from makes no difference.
* `Shape.Lists.exists_fieldNames`: the names of a shape that lists names are those it lists.
* `isRoot_iff`: the root of a field.
* `Constraint.accepts_iff`: the fields that a constraint accepts.
* `checks_by_names_and_root`: what the answers of a constraint depend on.
-/

namespace RecordFilter

/-! ## Sets of names -/

theorem pairwise_insertName {names : List String} (h : names.Pairwise (· < ·)) (s : String) :
    (insertName s names).Pairwise (· < ·) := by
  induction names with
  | nil => simp [insertName]
  | cons t ts ih =>
    obtain ⟨hbelow, hrest⟩ := List.pairwise_cons.1 h
    unfold insertName
    split
    · next hlt =>
      refine List.pairwise_cons.2 ⟨fun x hx => ?_, h⟩
      rcases List.mem_cons.1 hx with rfl | hx
      · exact hlt
      · exact String.lt_trans hlt (hbelow x hx)
    · next hnot =>
      split
      · exact h
      · next hne =>
        refine List.pairwise_cons.2 ⟨fun x hx => ?_, ih hrest⟩
        rcases mem_insertName.1 hx with rfl | hx
        · grind
        · exact hbelow x hx

/-- The names of a set are in increasing order. -/
theorem pairwise_nameSet (names : List String) : (nameSet names).Pairwise (· < ·) := by
  induction names with
  | nil => exact .nil
  | cons s names ih => exact pairwise_insertName ih s

/-- A set of names depends on nothing but which names there are. -/
theorem nameSet_congr {names names' : List String} (h : ∀ x, x ∈ names ↔ x ∈ names') :
    nameSet names = nameSet names' := by
  refine (pairwise_nameSet names).eq_of_mem_iff (pairwise_nameSet names') fun x => ?_
  rw [mem_nameSet, mem_nameSet, h]

theorem Constraint.ofNames_congr {names names' : List String} (h : ∀ x, x ∈ names ↔ x ∈ names') :
    ofNames names = ofNames names' := by
  have hall : nameSet (names ++ systemFields) = nameSet (names' ++ systemFields) :=
    nameSet_congr fun x => by simp [h]
  rw [ofNames, hall, ← ofNames]

/-! ## Walks over names -/

theorem Value.isSameMember_text {s t : String} :
    (text s).isSameMember (text t) = true ↔ s = t := by
  have hquoted : (text s).isSameMember (text t) = (Text.quoted s == Text.quoted t) := rfl
  rw [hquoted, beq_iff_eq, Text.quoted_injective.eq_iff]

theorem exists_foldl_members_text (names found : List String) : ∃ members : List String,
    (names.map Value.text).foldl
        (fun found v => if found.any v.isSameMember then found else found ++ [v])
        (found.map .text) = members.map .text ∧
      ∀ x, x ∈ members ↔ x ∈ found ∨ x ∈ names := by
  induction names generalizing found with
  | nil => exact ⟨found, rfl, by simp⟩
  | cons s names ih =>
    have hany : (found.map Value.text).any (Value.text s).isSameMember = true ↔ s ∈ found := by
      simp [Value.isSameMember_text]
    rw [List.map_cons, List.foldl_cons]
    by_cases hs : s ∈ found
    · obtain ⟨members, heq, hmem⟩ := ih found
      rw [if_pos (hany.2 hs)]
      exact ⟨members, heq, by grind⟩
    · obtain ⟨members, heq, hmem⟩ := ih (found ++ [s])
      rw [if_neg (mt hany.1 hs)]
      exact ⟨members, by simpa using heq, by grind⟩

/-- A set of texts has the texts as members that it was made from. -/
theorem exists_distinctMembers_text (names : List String) :
    ∃ members : List String, distinctMembers (names.map .text) = members.map .text ∧
      ∀ x, x ∈ members ↔ x ∈ names := by
  obtain ⟨members, heq, hmem⟩ := exists_foldl_members_text names []
  exact ⟨members, heq, by simpa using hmem⟩

theorem SlotTable.members_ofSize (size : Nat) : (ofSize size).members = [] := by
  simp [members, ofSize]

/-- A text has no slot of its own. -/
theorem SlotTable.members_insert_text {t : SlotTable} (h : t.members = []) (s : String) :
    (t.insert (.text s)).members = [] := by
  have hplace : (t.place (.text s)).members = [] := h
  unfold insert grown
  split
  · exact hplace
  · rw [hplace]
    exact members_ofSize _

theorem SlotTable.members_foldl_insert_text (names : List String) {t : SlotTable}
    (h : t.members = []) : ((names.map Value.text).foldl insert t).members = [] := by
  induction names generalizing t with
  | nil => exact h
  | cons s names ih => exact ih (members_insert_text h s)

/-- A walk over a set of texts meets its members. -/
theorem setWalk_text (names : List String) :
    setWalk (names.map .text) = distinctMembers (names.map .text) := by
  obtain ⟨members, heq, -⟩ := exists_distinctMembers_text names
  have hslots := SlotTable.members_foldl_insert_text members
    (SlotTable.members_ofSize SlotTable.smallest)
  have hcode : (members.map Value.text).filter (·.code?.isNone) = members.map .text := by
    simp [Value.code?]
  rw [setWalk, heq, hslots, hcode, List.nil_append]

theorem Shape.textItems_text (names : List String) : textItems (names.map .text) = .ok names := by
  induction names with
  | nil => rfl
  | cons s names ih =>
    rw [List.map_cons, textItems, ih]
    rfl

/-- A text can be a member of a set. -/
theorem unfitKind?_of_mem_text (names : List String) :
    ∀ v ∈ names.map Value.text, v.unfitKind? = none := by
  intro v hv
  obtain ⟨s, -, rfl⟩ := List.mem_map.1 hv
  rfl

/-- A walk over the shape meets texts and nothing else: the names that it lists, perhaps several
times, in the order in which they were given. A text alone is no list of names. -/
inductive Shape.Lists : Shape → List String → Prop
  | items (names : List String) : Lists (.items (names.map .text)) names
  | members (names : List String) : Lists (.members (names.map .text)) names
  | ofSet (names : List String) : Lists (.ofSet (names.map .text)) names
  | keys (names : List String) : Lists (.keys (names.map .text)) names
  | value {v : Value} {names : List String} (hv : v.isName = false)
      (hitems : v.items? = some (names.map .text)) : Lists (.value v) names
  | keyed {c : RecordClass} (values : List (String × Value)) (hmodel : c.isModel = false)
      (hkeyed : c.isKeyed = true) :
      Lists (.instanceOf c values) (values.map Prod.fst)
  | positional {c : RecordClass} {values : List (String × Value)} {names : List String}
      (hmodel : c.isModel = false) (hkeyed : c.isKeyed = false)
      (hpositional : c.line.any (·.kind = .positional) = true)
      (hvalues : (Shape.valuesOf (RecordClass.namesInOrder c.line) values).map Prod.snd =
        names.map .text) : Lists (.instanceOf c values) names

/-- The names of a shape that lists names are those that it lists. -/
theorem Shape.Lists.exists_fieldNames {s : Shape} {names : List String} (h : s.Lists names) :
    ∃ found, s.fieldNames = .ok found ∧ ∀ x, x ∈ found ↔ x ∈ names := by
  have hfit := unfitKind?_of_mem_text names
  cases h with
  | items => exact ⟨names, textItems_text names, fun x => .rfl⟩
  | members =>
    refine ⟨names, ?_, fun x => .rfl⟩
    rw [fieldNames, checkFit_of_fit hfit]
    exact textItems_text names
  | ofSet =>
    obtain ⟨found, heq, hmem⟩ := exists_distinctMembers_text names
    refine ⟨found, ?_, hmem⟩
    have hfound : ∀ v ∈ found.map Value.text, v.unfitKind? = none := unfitKind?_of_mem_text found
    rw [Shape.ofSet, setWalk_text, heq, fieldNames, checkFit_of_fit hfound]
    exact textItems_text found
  | keys =>
    refine ⟨names, ?_, fun x => .rfl⟩
    rw [fieldNames, checkFit_of_fit hfit]
    exact textItems_text names
  | value hv hitems =>
    refine ⟨names, ?_, fun x => .rfl⟩
    rw [fieldNames, valueNames_of_items hv hitems, textItems_text]
  | keyed values hmodel hkeyed =>
    exact ⟨_, by simp [fieldNames, instanceNames, hmodel, hkeyed], fun x => .rfl⟩
  | positional hmodel hkeyed hpositional hvalues =>
    refine ⟨names, ?_, fun x => .rfl⟩
    simp [fieldNames, instanceNames, hmodel, hkeyed, hpositional, hvalues, textItems_text]

/-! ## Roots -/

/-- The character ends the root of a field. -/
def IsSeparator (c : Char) : Prop := c = '.' ∨ c = ':'

/-- The root is the longest part at the front of the field in which there is no separator. -/
structure IsRoot (root field : String) : Prop where
  front : root.toList <+: field.toList
  unseparated : ∀ c ∈ root.toList, ¬ IsSeparator c
  longest : ∀ u, u <+: field.toList → (∀ c ∈ u, ¬ IsSeparator c) → u <+: root.toList

theorem toList_rootField (field : String) :
    (rootField field).toList = field.toList.takeWhile fun c => c != '.' && c != ':' :=
  String.toList_ofList

theorem isRoot_rootField (field : String) : IsRoot (rootField field) field where
  front := by
    rw [toList_rootField]
    exact List.takeWhile_prefix _
  unseparated := by
    intro c hc
    rw [toList_rootField] at hc
    simpa [IsSeparator] using List.mem_takeWhile_imp hc
  longest := by
    rintro u ⟨v, huv⟩ hu
    rw [toList_rootField, ← huv, List.takeWhile_append_of_pos]
    · exact List.prefix_append _ _
    · intro c hc
      simpa [IsSeparator] using hu c hc

theorem isRoot_iff {root field : String} : IsRoot root field ↔ root = rootField field := by
  constructor
  · intro h
    have hle := (isRoot_rootField field).longest _ h.front h.unseparated
    have hge := h.longest _ (isRoot_rootField field).front (isRoot_rootField field).unseparated
    exact String.toList_inj.1 (hle.eq_of_length_le hge.length_le)
  · rintro rfl
    exact isRoot_rootField field

/-- The text goes on behind a root. -/
def IsPathSuffix (suffix : String) : Prop := ∃ c s, suffix.toList = c :: s ∧ IsSeparator c

/-- What stands behind a separator has no part in the root. -/
theorem rootField_append {suffix : String} (h : IsPathSuffix suffix) (field : String) :
    rootField (field ++ suffix) = rootField field := by
  obtain ⟨c, s, hsuffix, hc⟩ := h
  have hstop : (c :: s).takeWhile (fun c => c != '.' && c != ':') = [] := by
    rcases hc with rfl | rfl <;> rfl
  rw [← String.toList_inj, toList_rootField, toList_rootField, String.toList_append, hsuffix,
    List.takeWhile_append, hstop]
  split
  · next hall => rw [List.append_nil, (List.takeWhile_prefix _).eq_of_length hall]
  · rfl

/-! ## Constraints -/

/-- The fields that may be asked for where the names are these: macros, and fields whose root is one
of the names or a field of every record. -/
def Allows (names : List String) (field : String) : Prop :=
  field.toList.head? = some '@' ∨ ∃ root, IsRoot root field ∧ (root ∈ names ∨ root ∈ systemFields)

namespace Constraint

theorem isMacro_iff {field : String} : isMacro field = true ↔ field.toList.head? = some '@' := by
  rw [isMacro, String.startsWith_string_iff]
  cases field.toList <;> simp [eq_comm]

theorem isMacro_append {suffix : String} (h : IsPathSuffix suffix) (field : String) :
    isMacro (field ++ suffix) = isMacro field := by
  obtain ⟨c, s, hsuffix, hc⟩ := h
  have hne : c ≠ '@' := by rcases hc with rfl | rfl <;> decide
  rw [Bool.eq_iff_iff, isMacro_iff, isMacro_iff, String.toList_append, hsuffix]
  cases field.toList <;> simp [hne]

/-- What stands behind a separator has no part in whether a field is accepted. -/
theorem accepts_append (k : Constraint) {suffix : String} (h : IsPathSuffix suffix)
    (field : String) : k.accepts (field ++ suffix) = k.accepts field := by
  simp only [accepts, isMacro_append h, rootField_append h]

theorem accepts_ofNames_iff {names : List String} {field : String} :
    (ofNames names).accepts field = true ↔ Allows names field := by
  simp [accepts, ofNames, Allows, isMacro_iff, isRoot_iff, mem_nameSet]

theorem refusal?_ofNames_of_not_allows {names : List String} {field : String}
    (h : ¬ Allows names field) : (ofNames names).refusal? field =
      some (.unknownField field (nameSet (names ++ systemFields))) := by
  rw [← accepts_ofNames_iff] at h
  rw [refusal?, if_neg h]
  rfl

/-- A shape with names makes the constraint of these names. -/
theorem ofShape?_eq {shape : Shape} {names : List String} (h : shape.fieldNames = .ok names) :
    ofShape? (some shape) = .ok (ofNames names) := by
  unfold ofShape?
  split
  · next heq => cases heq
  · next heq =>
    -- the missing value has no names
    cases heq
    cases h
  · next heq =>
    rw [← Option.some.inj heq, h]
    rfl

/-- A constraint that was made from a record accepts every field, or those that the names of the
record allow. -/
theorem cases_ofShape? {record : Option Shape} {k : Constraint} (h : ofShape? record = .ok k) :
    k = free ∨ ∃ shape names, record = some shape ∧ shape.fieldNames = .ok names ∧
      k = ofNames names := by
  unfold ofShape? at h
  split at h
  · exact .inl (Except.ok.inj h).symm
  · exact .inl (Except.ok.inj h).symm
  · next shape _ =>
    cases hnames : shape.fieldNames with
    | error e => simp [hnames, Except.map] at h
    | ok names =>
      rw [hnames] at h
      exact .inr ⟨shape, names, rfl, hnames, (Except.ok.inj h).symm⟩

end Constraint

/-- A shape that lists names makes the constraint of these names. -/
theorem Shape.Lists.ofShape?_eq {s : Shape} {names : List String} (h : s.Lists names) :
    Constraint.ofShape? (some s) = .ok (.ofNames names) := by
  obtain ⟨found, hfound, hmem⟩ := h.exists_fieldNames
  rw [Constraint.ofShape?_eq hfound, Constraint.ofNames_congr hmem]

/-- Names make the same constraint however they are listed, and the error of a field that it does
not accept shows them in increasing order. What a constraint accepts is told by the root of the
field, so nothing behind a separator makes a difference. -/
theorem checks_by_names_and_root :
    (∀ (a b : Shape) (names names' : List String), a.Lists names → b.Lists names' →
      (∀ x, x ∈ names ↔ x ∈ names') → ∃ k allowed, Constraint.ofShape? (some a) = .ok k ∧
        Constraint.ofShape? (some b) = .ok k ∧ allowed.Pairwise (· < ·) ∧
        (∀ x, x ∈ allowed ↔ x ∈ names ∨ x ∈ systemFields) ∧
        ∀ field, (Allows names field → k.refusal? field = none) ∧
          (¬ Allows names field → k.refusal? field = some (.unknownField field allowed))) ∧
    (∀ record k, Constraint.ofShape? record = .ok k → ∀ field, k.refusal? field = none ↔
      k.allowed = none ∨ ∃ shape names, record = some shape ∧ shape.fieldNames = .ok names ∧
        Allows names field) ∧
    ∀ (k : Constraint) field suffix, IsPathSuffix suffix →
      (k.refusal? (field ++ suffix) = none ↔ k.refusal? field = none) := by
  refine ⟨fun a b names names' ha hb hsame => ?_, fun record k hk field => ?_,
    fun k field suffix hsuffix => ?_⟩
  · refine ⟨.ofNames names, nameSet (names ++ systemFields), ha.ofShape?_eq, ?_,
      pairwise_nameSet _, fun x => by rw [mem_nameSet, List.mem_append], fun field => ⟨?_, ?_⟩⟩
    · rw [hb.ofShape?_eq, Constraint.ofNames_congr hsame]
    · exact fun h => Constraint.refusal?_eq_none_iff.2 (Constraint.accepts_ofNames_iff.2 h)
    · exact Constraint.refusal?_ofNames_of_not_allows
  · rw [Constraint.refusal?_eq_none_iff]
    rcases Constraint.cases_ofShape? hk with rfl | ⟨shape, names, rfl, hnames, rfl⟩
    · simp [Constraint.free, Constraint.accepts]
    · have hsome : (Constraint.ofNames names).allowed ≠ none := nofun
      rw [Constraint.accepts_ofNames_iff]
      simp [hsome, hnames]
  · rw [Constraint.refusal?_eq_none_iff, Constraint.refusal?_eq_none_iff, k.accepts_append hsuffix]

/-- A set and the keys of a mapping make one constraint, which asks a path for its first name. -/
theorem checks_by_names_and_root_set_and_keys :
    ∃ k allowed, Constraint.ofShape? (some (.ofSet [.text "b", .text "a", .text "b"])) = .ok k ∧
      Constraint.ofShape? (some (.keys [.text "a", .text "b"])) = .ok k ∧
      allowed.Pairwise (· < ·) ∧ k.refusal? ("a" ++ ".name:each") = none ∧
      k.refusal? "c" = some (.unknownField "c" allowed) := by
  obtain ⟨hsame, -, hroot⟩ := checks_by_names_and_root
  obtain ⟨k, allowed, ha, hb, hsorted, -, hcheck⟩ := hsame _ _ ["b", "a", "b"] ["a", "b"]
    (.ofSet _) (.keys _) (by simp [or_comm])
  have hallowed : Allows ["b", "a", "b"] "a" := .inr ⟨"a", isRoot_iff.2 (by decide), by simp⟩
  have hunknown : ¬ Allows ["b", "a", "b"] "c" := by
    rintro (hat | ⟨root, hroot, hmem⟩)
    · revert hat
      decide
    · rw [isRoot_iff.1 hroot] at hmem
      revert hmem
      decide
  refine ⟨k, allowed, ha, hb, hsorted, ?_, (hcheck "c").2 hunknown⟩
  exact (hroot k "a" ".name:each" ⟨'.', "name:each".toList, rfl, .inl rfl⟩).2
    ((hcheck "a").1 hallowed)

end RecordFilter
