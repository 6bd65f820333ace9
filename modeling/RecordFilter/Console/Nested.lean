import RecordFilter.Console.Line
import RecordFilter.Value

/-!
# Nested values on the console

A value that holds other values is shown on one line if it fits the console, and otherwise with each
of the values it holds on lines of its own, four blanks further in, where the same choice is made
again. How many cells there are across the console is told to each function as `width`.
-/

namespace RecordFilter.Console

/-- The blanks that a level is further in than the one around it. -/
def indentStep : Nat := 4

/-- The value on one line. -/
def oneLine (v : Value) : String := v.quoted?.getD ""

/-- A line, with the comma behind the value on it unless it is the last of its level. -/
def indented (indent : Nat) (text : String) (comma : Bool) : String :=
  String.ofList (List.replicate indent ' ') ++ text ++ if comma then "," else ""

/-- Does the value fit on one line? Room is kept for a comma and a blank inside a level. -/
def fits (width indent : Nat) (label : String) (nested : Bool) (v : Value) : Bool :=
  indent + cells label.toList + cells (oneLine v).toList + (if nested then 2 else 0) ≤ width

mutual

/-- The lines of a value behind a label. -/
def nestedLines (width indent : Nat) (label : String) (nested comma : Bool) : Value → List String
  | .list (v :: vs) =>
    if fits width indent label nested (.list (v :: vs)) then
      [indented indent (label ++ oneLine (.list (v :: vs))) comma]
    else
      indented indent (label ++ "[") false :: nestedItems width (indent + indentStep) (v :: vs) ++
        [indented indent "]" comma]
  | .mapping (e :: es) =>
    if fits width indent label nested (.mapping (e :: es)) then
      [indented indent (label ++ oneLine (.mapping (e :: es))) comma]
    else
      indented indent (label ++ "\x7b") false :: nestedEntries width (indent + indentStep) (e :: es) ++
        [indented indent "\x7d" comma]
  | v => [indented indent (label ++ oneLine v) comma]

def nestedItems (width indent : Nat) : List Value → List String
  | [] => []
  | v :: vs => nestedLines width indent "" true (!vs.isEmpty) v ++ nestedItems width indent vs

def nestedEntries (width indent : Nat) : List (String × Value) → List String
  | [] => []
  | (k, v) :: es =>
    nestedLines width indent (Text.quoted k ++ ": ") true (!es.isEmpty) v ++
      nestedEntries width indent es

end

/-- The value on as many lines as it takes. -/
def showNested (width : Nat) (v : Value) : String :=
  if width = 0 then ""
  else "".intercalate ((nestedLines width 0 "" false false v).map fun l => l ++ "\n")

end RecordFilter.Console
