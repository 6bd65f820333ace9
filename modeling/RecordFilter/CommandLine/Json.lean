import RecordFilter.Text.Quoted
import RecordFilter.Value

/-!
# JSON

Values as JSON text on one line, with a blank behind every comma and colon. Only quotes, backslashes
and controls are escaped in strings; every other character stands for itself.
-/

namespace RecordFilter.CommandLine

namespace Json

open Text (hexDigits)

def escapeChar (c : Char) : List Char :=
  if c = '"' then ['\\', '"']
  else if c = '\\' then ['\\', '\\']
  else if c = '\n' then ['\\', 'n']
  else if c = '\r' then ['\\', 'r']
  else if c = '\t' then ['\\', 't']
  else if c.toNat = 0x08 then ['\\', 'b']
  else if c.toNat = 0x0c then ['\\', 'f']
  else if c.toNat < 0x20 then '\\' :: 'u' :: hexDigits 4 c.toNat
  else [c]

/-- A string between quotes. -/
def string (s : String) : String := String.ofList ('"' :: s.toList.flatMap escapeChar ++ ['"'])

mutual

/-- Values without a form of their own in JSON are written as strings. -/
def text : Value → String
  | .null => "null"
  | .bool b => if b then "true" else "false"
  | .int n => toString n
  | .float x => x.text
  | .text s => string s
  | .list vs => "[" ++ ", ".intercalate (texts vs) ++ "]"
  | .tuple vs => "[" ++ ", ".intercalate (texts vs) ++ "]"
  | .mapping entries => "\x7b" ++ ", ".intercalate (members entries) ++ "\x7d"
  | .bytes bs => string (Text.quotedBytes bs)
  | .date d => string d.text
  | .moment m => string m.text

def texts : List Value → List String
  | [] => []
  | v :: vs => text v :: texts vs

def members : List (String × Value) → List String
  | [] => []
  | (k, v) :: entries => (string k ++ ": " ++ text v) :: members entries

end

end Json

end RecordFilter.CommandLine
