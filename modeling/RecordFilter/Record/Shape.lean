import RecordFilter.Error
import RecordFilter.Record.SlotTable
import RecordFilter.Text.LetterCase

/-!
# Record shapes

A caller may say which fields the records of a collection have: by a row of names, or by a class
that declares them. This module finds the names that a shape declares.

Classes come in several kinds, and a class inherits from its ancestors what they declare. A class
with a model among its ancestors or itself is a model: a field is known by its name and by its
alias, and the nearest declaration of a name counts. Names that start with an underscore are private
to a model. Otherwise a class with a data class in its line has the fields that the data classes of
the line declare. Every other class has all the names that it and its ancestors annotate, of which
there must be at least one.

A class that is made from a keyed one is keyed too, whatever it is declared as. It takes over what
its ancestors annotate, but is not their heir: a data class among them is no ancestor of it.
-/

namespace RecordFilter

/-- A name annotated in the body of a class. -/
structure Annotation where
  name : String
  /-- A second name of the field. -/
  alias? : Option String
  /-- The name under which a model takes the value of the field, if that is not its second name. -/
  key? : Option String
  /-- Is it a field of the instances, and not of the class or of their initialization alone? -/
  isField : Bool
  deriving DecidableEq, Repr

/-- What a class is declared as. A model may make the upper case name the alias of a field without
one. -/
inductive ClassKind
  | model (upperAliases : Bool)
  | data
  | annotated
  | keyed
  | positional
  deriving DecidableEq, Repr

/-- One class of a line, with what its own body declares. -/
structure Layer where
  kind : ClassKind
  name : String
  body : List Annotation
  deriving DecidableEq, Repr

/-- A class with its ancestors, nearest first. -/
structure RecordClass where
  self : Layer
  ancestors : List Layer
  deriving DecidableEq, Repr

namespace Layer

def isModel (l : Layer) : Bool := match l.kind with | .model _ => true | _ => false

def hasUpperAliases (l : Layer) : Bool := match l.kind with | .model upper => upper | _ => false

end Layer

namespace RecordClass

def name (c : RecordClass) : String := c.self.name

/-- The class and its ancestors, nearest first. -/
def line (c : RecordClass) : List Layer := c.self :: c.ancestors

def isModel (c : RecordClass) : Bool := c.line.any Layer.isModel

/-- Is the class a keyed one, or made from one? -/
def isKeyed (c : RecordClass) : Bool := c.line.any (·.kind = .keyed)

/-- The declarations of some layers, the one that counts for a name before those it replaces. -/
def declarations (layers : List Layer) : List Annotation := layers.flatMap fun l => l.body.reverse

/-- The names declared by some layers, those of the furthest ancestor first. -/
def namesInOrder (layers : List Layer) : List String :=
  (layers.reverse.flatMap fun l => l.body.map Annotation.name).eraseDups

/-- The declarations that count, in the order in which their names first appear. -/
def effective (layers : List Layer) : List Annotation :=
  (namesInOrder layers).filterMap fun n => (declarations layers).find? (·.name = n)

/-- The class and the ancestors it is an heir of, nearest first, each with its annotations. A keyed
class has the annotations of its whole line as its own, and is nobody's heir. -/
def lineage (c : RecordClass) : List Layer :=
  if c.isKeyed then [{ c.self with body := effective c.line }] else c.line

def isData (c : RecordClass) : Bool := c.lineage.any (·.kind = .data)

/-- The fields of the data classes that the class is an heir of. -/
def dataFields (c : RecordClass) : List String :=
  ((effective (c.lineage.filter (·.kind = .data))).filter Annotation.isField).map Annotation.name

/-- Do the fields of the class have their names in upper case as aliases? -/
def hasUpperAliases (c : RecordClass) : Bool := c.line.any Layer.hasUpperAliases

/-- The fields of a model. -/
def modelFields (c : RecordClass) : List Annotation :=
  (effective c.line).filter fun a => a.isField && !a.name.startsWith "_" && a.name != "model_config"

/-- The alias of a field of a model, which may be the empty one. -/
def aliasOf (c : RecordClass) (a : Annotation) : Option String :=
  a.alias? <|> if c.hasUpperAliases then some (String.ofList (Text.upper a.name.toList)) else none

/-- The name under which a model takes the value of a field. -/
def keyOf (c : RecordClass) (a : Annotation) : String :=
  (a.key? <|> c.aliasOf a).getD a.name

/-- The names and aliases of the fields of a model. An empty alias is no name. -/
def modelNames (c : RecordClass) : List String :=
  c.modelFields.flatMap fun a => a.name :: ((c.aliasOf a).filter (· != "")).toList

/-- The names by which the fields of the class are known. -/
def fieldNames (c : RecordClass) : Except FilterError (List String) :=
  if c.isModel then .ok c.modelNames
  else if c.isData then .ok c.dataFields
  else
    match namesInOrder c.lineage with
    | [] => .error (.shape (.noFields c.name))
    | names => .ok names

end RecordClass

/-- What a caller gives to say which fields there are: items to walk over, as a row, as a set or as
the keys of a mapping, a value, a class, or an instance of a class with the values of its fields. -/
inductive Shape
  | items (vs : List Value)
  /-- The members of a set, in the order in which a walk meets them. The caller has no say in it. -/
  | members (walk : List Value)
  | keys (vs : List Value)
  | value (v : Value)
  | ofClass (c : RecordClass)
  | instanceOf (c : RecordClass) (values : List (String × Value))

namespace Shape

/-- The set that is made from some values. -/
def ofSet (vs : List Value) : Shape := .members (setWalk vs)

/-- The items as names; the first that is not a string is an error. -/
def textItems : List Value → Except FilterError (List String)
  | [] => .ok []
  | .text s :: vs => do return s :: (← textItems vs)
  | v :: _ =>
    match v.quoted? with
    | some shown => .error (.shape (.notName shown))
    | none => .error .integerTooLong

/-- Members of a set and keys of a mapping must be values that do not change. -/
def checkFit (vs : List Value) : Except FilterError Unit :=
  match vs.findSome? Value.unfitKind? with
  | some kind => .error (.unhashable kind)
  | none => .ok ()

def valueNames (v : Value) : Except FilterError (List String) :=
  match v with
  | .text _ => .error (.shape .bareText)
  | v =>
    match v.items?, v.quoted? with
    | some vs, _ => textItems vs
    | none, some shown => .error (.shape (.unreadable shown))
    | none, none => .error .integerTooLong

/-- The value of a field. Of two values for one field the last counts. -/
def valueOf? (values : List (String × Value)) (name : String) : Option Value :=
  values.reverse.lookup name

/-- The values of the named fields, in the order of the names. -/
def valuesOf (names : List String) (values : List (String × Value)) : List (String × Value) :=
  names.filterMap fun n => (valueOf? values n).map fun v => (n, v)

/-- The values of the fields of a model, in the order of the fields. -/
def modelValues (c : RecordClass) (values : List (String × Value)) : List (String × Value) :=
  c.modelFields.filterMap fun a => (valueOf? values (c.keyOf a)).map fun v => (a.name, v)

/-- An instance of a data class as the call that makes it. -/
def instanceText? (name : String) : List (String × Value) → Option String := fun values => do
  let parts ← values.mapM fun (n, v) => v.quoted?.map fun t => n ++ "=" ++ t
  return name ++ "(" ++ ", ".intercalate parts ++ ")"

/-- A walk over an instance of a model meets pairs of a name and a value, over a keyed one its
names, and over a positional one its values. The other instances cannot be walked over. -/
def instanceNames (c : RecordClass) (values : List (String × Value)) :
    Except FilterError (List String) :=
  if c.isModel then textItems ((modelValues c values).map fun (n, v) => .tuple [.text n, v])
  else if c.isKeyed then .ok (values.map Prod.fst)
  else if c.line.any (·.kind = .positional) then
    textItems ((valuesOf (RecordClass.namesInOrder c.line) values).map Prod.snd)
  else
    match instanceText? c.name (valuesOf c.dataFields values) with
    | some shown => .error (.shape (.unreadable shown))
    | none => .error .integerTooLong

/-- The field names that a shape declares. -/
def fieldNames : Shape → Except FilterError (List String)
  | items vs => textItems vs
  | members vs => do checkFit vs; textItems vs
  | keys vs => do checkFit vs; textItems vs
  | value v => valueNames v
  | ofClass c => c.fieldNames
  | instanceOf c values => instanceNames c values

end Shape

end RecordFilter
