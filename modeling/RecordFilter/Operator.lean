/-!
# Comparison operators

The sixteen operators of the filter language: eight comparisons, and the same eight asked of a field
with many values, where one matching element is enough. An operator has a symbol, which stands in
the filter, and two names, one for people and one for the builder call that writes it.
-/

namespace RecordFilter

inductive Operator
  | equal
  | notEqual
  | greaterThan
  | greaterThanOrEqual
  | lessThan
  | lessThanOrEqual
  | like
  | notLike
  | anyEqual
  | anyNotEqual
  | anyGreaterThan
  | anyGreaterThanOrEqual
  | anyLessThan
  | anyLessThanOrEqual
  | anyLike
  | anyNotLike
  deriving DecidableEq, Repr

namespace Operator

/-- Every operator, in the order in which they are listed for a user. -/
def all : List Operator :=
  [equal, notEqual, greaterThan, greaterThanOrEqual, lessThan, lessThanOrEqual, like, notLike,
   anyEqual, anyNotEqual, anyGreaterThan, anyGreaterThanOrEqual, anyLessThan, anyLessThanOrEqual,
   anyLike, anyNotLike]

def symbol : Operator → String
  | equal => "="
  | notEqual => "!="
  | greaterThan => ">"
  | greaterThanOrEqual => ">="
  | lessThan => "<"
  | lessThanOrEqual => "<="
  | like => "~"
  | notLike => "!~"
  | anyEqual => "?="
  | anyNotEqual => "?!="
  | anyGreaterThan => "?>"
  | anyGreaterThanOrEqual => "?>="
  | anyLessThan => "?<"
  | anyLessThanOrEqual => "?<="
  | anyLike => "?~"
  | anyNotLike => "?!~"

def name : Operator → String
  | equal => "EQUAL"
  | notEqual => "NOT_EQUAL"
  | greaterThan => "GREATER_THAN"
  | greaterThanOrEqual => "GREATER_THAN_OR_EQUAL"
  | lessThan => "LESS_THAN"
  | lessThanOrEqual => "LESS_THAN_OR_EQUAL"
  | like => "LIKE"
  | notLike => "NOT_LIKE"
  | anyEqual => "ANY_EQUAL"
  | anyNotEqual => "ANY_NOT_EQUAL"
  | anyGreaterThan => "ANY_GREATER_THAN"
  | anyGreaterThanOrEqual => "ANY_GREATER_THAN_OR_EQUAL"
  | anyLessThan => "ANY_LESS_THAN"
  | anyLessThanOrEqual => "ANY_LESS_THAN_OR_EQUAL"
  | anyLike => "ANY_LIKE"
  | anyNotLike => "ANY_NOT_LIKE"

/-- The name of the builder call that writes a condition with this operator. -/
def method (op : Operator) : String := op.name.map Char.toLower

/-- Does the operator ask for one matching element of many? -/
def isAny (op : Operator) : Bool := op.symbol.startsWith "?"

def ofSymbol? (s : String) : Option Operator := all.find? fun op => op.symbol == s

def ofName? (s : String) : Option Operator := all.find? fun op => op.name == s

def ofMethod? (s : String) : Option Operator := all.find? fun op => op.method == s

/-- Does some operator's symbol stand at the front of the text? -/
def startsText (s : List Char) : Bool := all.any fun op => op.symbol.toList.isPrefixOf s

theorem mem_all (op : Operator) : op ∈ all := by cases op <;> decide

end Operator

end RecordFilter
