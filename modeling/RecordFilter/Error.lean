import RecordFilter.Value

/-!
# Errors

Mistakes of a caller, told apart by their cause. A value that is merely absent is never a mistake;
the condition that asks for it is left out. `FilterError.message` gives the wording, `hint` what the
caller may try instead, and `details` the data behind the message.
-/

namespace RecordFilter

open Text (quoted)

/-- Why a record shape gives no field names. Where a text is kept, it shows the value at fault. -/
inductive ShapeProblem
  | noFields (name : String)
  | bareText
  | notName (shown : String)
  | unreadable (shown : String)
  deriving DecidableEq, Repr

def ShapeProblem.message : ShapeProblem → String
  | noFields name => name ++ " declares no annotated fields"
  | bareText => "Record shape must be a type or an iterable of names, not a str"
  | notName shown => "Field names must be strings, got " ++ shown
  | unreadable shown => "Cannot read field names from " ++ shown

inductive FilterError
  /-- The field is not one of the names allowed, which are listed in order. -/
  | unknownField (field : String) (allowed : List String)
  /-- The value is not the symbol of an operator; `shown` is its quoted text. -/
  | unknownOperator (symbol : Value) (shown : String) (supported : List String)
  | shape (problem : ShapeProblem)
  /-- An integer has too many digits to be written out. -/
  | integerTooLong
  /-- A value of this kind cannot be walked over. -/
  | notIterable (kind : String)
  /-- A value of this kind can be neither a member of a set nor a key of a mapping. -/
  | unhashable (kind : String)
  deriving Repr

namespace FilterError

/-- How many of the allowed names a message lists. -/
def previewLength : Nat := 10

def message : FilterError → String
  | unknownField field allowed =>
    let preview := ", ".intercalate (allowed.take previewLength)
    "Unknown field " ++ quoted field ++ " (allowed: " ++ preview ++ ")"
  | unknownOperator _ shown _ => "Unknown filter operator " ++ shown
  | shape problem => problem.message
  | integerTooLong => "Exceeds the limit (4300 digits) for integer string conversion; " ++
      "use sys.set_int_max_str_digits() to increase the limit"
  | notIterable kind => "'" ++ kind ++ "' object is not iterable"
  | unhashable kind => "unhashable type: '" ++ kind ++ "'"

def hint : FilterError → Option String
  | unknownOperator _ _ [] => none
  | unknownOperator _ _ supported => some ("Supported operators: " ++ " ".intercalate supported)
  | _ => none

/-- The data behind the message, as named values. -/
def details : FilterError → Option (List (String × Value))
  | unknownField field allowed =>
    some [("field", .text field), ("allowed", .list (allowed.map .text))]
  | unknownOperator symbol _ _ => some [("symbol", symbol)]
  | _ => none

end FilterError

end RecordFilter
