import RecordFilter.Console.Action.Grammar
import RecordFilter.Text.Blank
import RecordFilter.Text.Quoted

/-!
# Actions

A tag that starts with an at sign is an action. Its parameters are the name of a handler with
arguments in brackets, or one of the two alone; the arguments are a literal value. The console here
does nothing with an action, but its arguments are read when its tag is closed, and must make sense.
-/

namespace RecordFilter.Console

open Text

/-- Why the parameters of an action make no sense. -/
inductive ActionProblem
  /-- The part that was read as a value is not written like one. -/
  | malformed (read given reason : String)
  /-- What is written has no value. -/
  | valueless (given reason : String)
  deriving DecidableEq, Repr

def ActionProblem.message : ActionProblem → String
  | malformed read given reason => s!"error parsing {quoted read} in {quoted given}; {reason}"
  | valueless given reason => s!"error parsing {quoted given}; {reason}"

namespace Action

/-- May a character occur in the name of a handler? -/
def isHandlerChar (c : Char) : Bool := isWordChar c || c == '.'

/-- The part of the parameters that is read as a value. A handler alone has no arguments; text that
is not a handler with brackets behind it is a value itself. -/
def valueText (s : List Char) : List Char :=
  match s.dropWhile isHandlerChar with
  | [] => "()".toList
  | '(' :: inner =>
    if inner.getLast? = some ')' && !inner.contains '\n' then '(' :: inner else s
  | _ => s

/-- What is wrong with the parameters of an action. -/
def problem? (parameters : List Char) : Option ActionProblem :=
  let given := String.ofList parameters
  let read := valueText (trim parameters)
  match readExpression read with
  | .error reason => some (.malformed (String.ofList read) given reason)
  | .ok e =>
    match e.read with
    | .error p => some (.valueless given p.message)
    | .ok _ => none

end Action

end RecordFilter.Console
