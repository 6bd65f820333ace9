import RecordFilter.Record.Shape

/-!
# Field constraints

A constraint is a set of names that fields must come from, or none. Every record has five system
fields, which are always allowed. Only the first segment of a path counts: `author.name` asks for
`author`, and `tags:length` for `tags`. A field that starts with an at sign names no field of the
record and is always allowed.
-/

namespace RecordFilter

/-- Put a name into its place in an increasing list, once. -/
def insertName (s : String) : List String → List String
  | [] => [s]
  | t :: ts => if s < t then s :: t :: ts else if s = t then t :: ts else t :: insertName s ts

/-- The names in increasing order of their code points, each once. -/
def nameSet (names : List String) : List String := names.foldr insertName []

theorem mem_insertName {s x : String} {names : List String} :
    x ∈ insertName s names ↔ x = s ∨ x ∈ names := by
  induction names with
  | nil => simp [insertName]
  | cons t ts ih => grind [insertName]

/-- Putting names in order neither adds nor loses one. -/
theorem mem_nameSet {x : String} {names : List String} : x ∈ nameSet names ↔ x ∈ names := by
  induction names with
  | nil => simp [nameSet]
  | cons t ts ih =>
    rw [nameSet, List.foldr_cons, mem_insertName, ← nameSet, ih]
    simp

/-- The fields that every record has. -/
def systemFields : List String := ["id", "created", "updated", "collectionId", "collectionName"]

/-- The part of a path before its first point or colon. -/
def rootField (field : String) : String :=
  String.ofList (field.toList.takeWhile fun c => c != '.' && c != ':')

/-- The names that fields must come from, in increasing order; or no constraint at all. -/
structure Constraint where
  allowed : Option (List String)
  deriving DecidableEq, Repr

namespace Constraint

/-- Every field is allowed. -/
def free : Constraint := ⟨none⟩

def ofNames (names : List String) : Constraint := ⟨some (nameSet (names ++ systemFields))⟩

/-- The constraint that a record shape makes; no shape makes none. -/
def ofShape? : Option Shape → Except FilterError Constraint
  | none | some (.value .null) => .ok free
  | some shape => shape.fieldNames.map ofNames

/-- Is the field a macro, whose name starts with an at sign? -/
def isMacro (field : String) : Bool := field.startsWith "@"

def accepts (c : Constraint) (field : String) : Bool :=
  match c.allowed with
  | none => true
  | some names => isMacro field || names.contains (rootField field)

/-- The error that a field is refused with, if it is. -/
def refusal? (c : Constraint) (field : String) : Option FilterError :=
  if c.accepts field then none else some (.unknownField field (c.allowed.getD []))

theorem refusal?_eq_none_iff {c : Constraint} {field : String} :
    c.refusal? field = none ↔ c.accepts field = true := by
  simp [refusal?]

end Constraint

end RecordFilter
