import RecordFilter.Calendar
import RecordFilter.Number.Binary64
import RecordFilter.Text.Quoted

/-!
# Values

What a caller may compare a field with. A value has two texts. The *quoted* text shows what kind of
value it is: strings stand between quotes, dates are written as constructor calls, and what a list
holds is shown in the same way. The *plain* text is the string itself, or a date in the usual order,
and the quoted text for everything else.

Both texts are missing if the value holds an integer that is too long to be written out.
-/

namespace RecordFilter

open Number (Binary64 integer?)
open Text (quoted quotedBytes)

inductive Value
  | null
  | bool (b : Bool)
  | int (n : Int)
  | float (x : Binary64)
  | text (s : String)
  | bytes (bs : List UInt8)
  | date (d : Date)
  | moment (m : Moment)
  | list (vs : List Value)
  | tuple (vs : List Value)
  | mapping (entries : List (String × Value))
  deriving Inhabited, Repr

namespace Value

def boolText (b : Bool) : String := if b then "True" else "False"

/-- A tuple of one value keeps a comma, which tells it from a value in brackets. -/
def tupleText : List String → String
  | [s] => "(" ++ s ++ ",)"
  | ss => "(" ++ ", ".intercalate ss ++ ")"

mutual

/-- The text that shows what kind of value it is. -/
def quoted? : Value → Option String
  | null => some "None"
  | bool b => some (boolText b)
  | int n => integer? n
  | float x => some x.text
  | text s => some (quoted s)
  | bytes bs => some (quotedBytes bs)
  | date d => some d.constructorText
  | moment m => some m.constructorText
  | list vs => do return "[" ++ ", ".intercalate (← quotedAll? vs) ++ "]"
  | tuple vs => do return tupleText (← quotedAll? vs)
  | mapping entries => do return "\x7b" ++ ", ".intercalate (← quotedEntries? entries) ++ "\x7d"

def quotedAll? : List Value → Option (List String)
  | [] => some []
  | v :: vs => do return (← quoted? v) :: (← quotedAll? vs)

def quotedEntries? : List (String × Value) → Option (List String)
  | [] => some []
  | (k, v) :: entries => do return (quoted k ++ ": " ++ (← quoted? v)) :: (← quotedEntries? entries)

end

/-- The text of the value on its own. -/
def plain? : Value → Option String
  | text s => some s
  | date d => some d.text
  | moment m => some m.text
  | v => quoted? v

/-- Booleans always count, and the missing value and the empty string never do. -/
def isPresent : Value → Bool
  | null => false
  | text s => s != ""
  | _ => true

/-- The name of the kind of value, as messages give it. -/
def kindName : Value → String
  | null => "NoneType"
  | bool _ => "bool"
  | int _ => "int"
  | float _ => "float"
  | text _ => "str"
  | bytes _ => "bytes"
  | date _ => "datetime.date"
  | moment _ => "datetime.datetime"
  | list _ => "list"
  | tuple _ => "tuple"
  | mapping _ => "dict"

/-- What a walk over the value meets: the characters of a string, the numbers of bytes, the items of
a list or tuple and the keys of a mapping. The other values cannot be walked over. -/
def items? : Value → Option (List Value)
  | text s => some (s.toList.map fun c => text (String.singleton c))
  | bytes bs => some (bs.map fun b => int b.toNat)
  | list vs => some vs
  | tuple vs => some vs
  | mapping entries => some (entries.map fun e => text e.1)
  | _ => none

end Value

end RecordFilter
