import RecordFilter.Error
import RecordFilter.Operator

/-!
# Conditions

A condition compares a field with a value. It is written as the field, the operator's symbol and a
literal: `true` or `false`, or the plain text of the value between double quotes, taken as it is. A
condition on an absent value is written as nothing at all.
-/

namespace RecordFilter

/-- The literal that stands for a value, unless an integer in it is too long to be written out. -/
def Value.literal? : Value → Option String
  | .bool b => some (if b then "true" else "false")
  | v => v.plain?.map fun t => "\"" ++ t ++ "\""

/-- The operator with this symbol. -/
def Operator.ofValue? : Value → Option Operator
  | .text s => Operator.ofSymbol? s
  | _ => none

/-- The operator with this symbol, or the error that names the value and the symbols there are. -/
def Operator.ofSymbol (symbol : Value) : Except FilterError Operator :=
  match Operator.ofValue? symbol with
  | some op => .ok op
  | none =>
    match symbol.quoted? with
    | some shown => .error (.unknownOperator symbol shown (Operator.all.map Operator.symbol))
    | none => .error .integerTooLong

structure Condition where
  field : String
  operator : Operator
  value : Value

namespace Condition

def isPresent (c : Condition) : Bool := c.value.isPresent

/-- The condition as a part of a filter: nothing at all if its value is absent. -/
def write (c : Condition) : Except FilterError String :=
  if c.isPresent then
    match c.value.literal? with
    | some lit => .ok (c.field ++ c.operator.symbol ++ lit)
    | none => .error .integerTooLong
  else .ok ""

end Condition

end RecordFilter
