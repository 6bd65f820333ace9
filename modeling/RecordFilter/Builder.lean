import RecordFilter.Condition
import RecordFilter.Connective
import RecordFilter.Normalize
import RecordFilter.Record.Constraint

/-!
# The builder

A builder collects the fragments of one filter. Conditions, connectives and brackets are appended as
they come, and nothing is checked but the names of fields; a condition on an absent value appends
nothing. `build` normalizes what has been collected, which removes what such conditions leave
stranded, and starts afresh.

A call may fail. What it had done to the builder before it failed is not undone, so an outcome tells
the builder apart from the error.
-/

namespace RecordFilter

structure Builder where
  constraint : Constraint
  /-- What has been appended, first to last. -/
  fragments : List String
  /-- The value of the last condition or custom fragment, until a connective follows. -/
  last : Value

namespace Builder

def new (constraint : Constraint) : Builder := ⟨constraint, [], .null⟩

/-- The filter as it was written, not normalized. -/
def query (b : Builder) : String := String.join b.fragments

def append (b : Builder) (fragment : String) : Builder :=
  { b with fragments := b.fragments ++ [fragment] }

def appendAll (b : Builder) (fragments : List String) : Builder :=
  { b with fragments := b.fragments ++ fragments }

def withLast (b : Builder) (v : Value) : Builder := { b with last := v }

def openBracket (b : Builder) : Builder := b.append "("

def closeBracket (b : Builder) : Builder := b.append ")"

def connect (b : Builder) (c : Connective) : Builder := (b.append c.spaced).withLast .null

/-- The builder with nothing collected and the same constraint. -/
def reset (b : Builder) : Builder := new b.constraint

/-- A custom fragment is appended as it is; an empty or missing one only clears the last value. -/
def custom (b : Builder) (fragment : Option String) : Builder :=
  let b := b.withLast ((fragment.map .text).getD .null)
  match fragment with
  | none | some "" => b
  | some text => b.append text

end Builder

/-- One call on a builder. -/
inductive Call
  /-- Compare a field with a value. -/
  | compare (operator : Operator) (field : String) (value : Value)
  /-- Compare with the operator that has this symbol. -/
  | compareBy (symbol : Value) (field : String) (value : Value)
  /-- The field is like one of the items of a value. -/
  | anyOf (field : String) (values : Value)
  | connect (c : Connective)
  | openBracket
  | closeBracket
  | custom (fragment : Option String)
  /-- Read the filter as it was written. -/
  | read
  /-- The builder as a text that shows what it is. -/
  | inspect
  /-- The normal form of the filter, after which the builder starts afresh. -/
  | build

/-- What a call leads to: the builder after it, the text it returned, the error that ended it, and
the log records it wrote. -/
structure Outcome where
  builder : Builder
  value : Option String
  error : Option FilterError
  log : List LogRecord

namespace Outcome

def done (b : Builder) : Outcome := ⟨b, none, none, []⟩

def failed (b : Builder) (e : FilterError) : Outcome := ⟨b, none, some e, []⟩

def returned (b : Builder) (text : String) : Outcome := ⟨b, some text, none, []⟩

end Outcome

namespace Builder

def skipRecord (field : String) (op : Operator) : LogRecord :=
  ⟨.debug, "pbquery.filters",
    "Skipping " ++ field ++ op.symbol ++ " condition with empty value"⟩

/-- Append a condition. The value is remembered before the condition is written. -/
def compare (b : Builder) (op : Operator) (field : String) (value : Value) : Outcome :=
  match b.constraint.refusal? field with
  | some e => .failed b e
  | none =>
    let b := b.withLast value
    match Condition.write ⟨field, op, value⟩ with
    | .error e => .failed b e
    | .ok "" => { Outcome.done b with log := [skipRecord field op] }
    | .ok fragment => .done (b.append fragment)

/-- The fragments of conditions on the given values, with a connective before each but the first, as
far as they can be written; and the error at the first that cannot. -/
def alternatives (field : String) : (first : Bool) → List Value → List String × Option FilterError
  | _, [] => ([], none)
  | first, v :: vs =>
    let joint := if first then [] else [Connective.or.spaced]
    match Condition.write ⟨field, .like, v⟩ with
    | .error e => (joint, some e)
    | .ok fragment =>
      let (rest, error) := alternatives field false vs
      (joint ++ fragment :: rest, error)

/-- Append a condition for each item that is not absent. -/
def anyOf (b : Builder) (field : String) (values : Value) : Outcome :=
  match b.constraint.refusal? field with
  | some e => .failed b e
  | none =>
    match values.items? with
    | none => .failed b (.notIterable values.kindName)
    | some items =>
      let survivors := items.filter Value.isPresent
      let (fragments, error) := alternatives field true survivors
      let b := b.appendAll fragments
      match error with
      | some e => .failed b e
      | none => .done (b.withLast (survivors.getLast?.getD b.last))

end Builder

/-- Make a call on a builder. -/
def Call.run : Call → Builder → Outcome
  | compare op field value, b => b.compare op field value
  | compareBy symbol field value, b =>
    match Operator.ofSymbol symbol with
    | .error e => .failed b e
    | .ok op => b.compare op field value
  | anyOf field values, b => b.anyOf field values
  | connect c, b => .done (b.connect c)
  | openBracket, b => .done b.openBracket
  | closeBracket, b => .done b.closeBracket
  | custom fragment, b => .done (b.custom fragment)
  | read, b => .returned b b.query
  | inspect, b => .returned b ("QueryBuilder(" ++ Text.quoted b.query ++ ")")
  | build, b => { Outcome.returned b.reset (normalize b.query) with log := normalizeLog b.query }

end RecordFilter
