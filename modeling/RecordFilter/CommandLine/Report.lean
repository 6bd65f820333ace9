import RecordFilter.CommandLine.Failure
import RecordFilter.CommandLine.Json
import RecordFilter.CommandLine.Output
import RecordFilter.Console.Markup
import RecordFilter.Console.Nested
import RecordFilter.Console.Table

/-!
# Reports

What a command has to tell: its result, or the error that ended it, and warnings. A report is shown
to people on the two output streams, or written to the first of them as one line of JSON. Results
that are rows of named values are shown as a table, a single row as a list of its names and values,
and everything else as plain text. An error is shown as its title and message, a hint, and for a
curious user the data behind it. How many cells there are across the console is told to the
functions as `width`.
-/

namespace RecordFilter.CommandLine

open Console

structure Report where
  ok : Bool
  command : String
  /-- The result, or nothing. -/
  data : Value
  warnings : List String
  error : Option ErrorReport

/-- The name of an error of the given kind. -/
def errorTitle (kind : String) : String :=
  match String.ofList (Text.trim kind.toList) with
  | "usage_error" => "Usage error"
  | "io_error" => "I/O error"
  | "internal_error" => "Internal error"
  | _ => "Error"

namespace Report

/-- How much a user wants to see. -/
structure Detail where
  quiet : Bool
  verbosity : Nat
  deriving DecidableEq, Repr

/-- The hint that goes with an error, or the advice to ask for help. -/
def hintText (command : String) (e : ErrorReport) : Option String :=
  match e.hint with
  | none | some "" =>
    if e.kind = "usage_error" then some ("Hint: run `pbquery " ++ command ++ " --help`") else none
  | some hint => some ("Hint: " ++ hint)

/-- What is printed of an error, one piece after the other. -/
def errorTexts (width : Nat) (command : String) (detail : Detail) (e : ErrorReport) : List String :=
  let details := match e.details with
    | none | some [] => []
    | some entries => if 1 ≤ detail.verbosity then [showNested width (.mapping entries)] else []
  printed width (errorTitle e.kind ++ ": " ++ e.message) ::
    if detail.quiet then []
    else ((hintText command e).map (printed width)).toList ++ details

/-- A value in a table, as it is. -/
def plainCell (v : Value) : List Char := dropControls (spoken v).toList

/-- The rows of a result that is made of rows of named values. -/
def rows? : Value → Option (List (List (String × Value)))
  | .list [] => none
  | .list vs => vs.mapM fun v => match v with | .mapping entries => some entries | _ => none
  | _ => none

/-- Marked up texts as they are shown. All of them are read before the first is shown. -/
def showMarkup (texts : List String) : Except MarkupProblem (List (List Char)) := do
  let marked ← texts.mapM readMarkup
  marked.mapM Marked.shown

/-- The headings of a table in a box. They are left alone if there is no room for them. -/
def headings (width : Nat) (names : List String) : Except MarkupProblem (List (List Char)) :=
  if Table.showsHeadings width names.length then showMarkup names
  else .ok (names.map fun _ => [])

/-- A table of rows under the names in the first of them. -/
def rowsTable (width : Nat) (rows : List (List (String × Value))) : Except MarkupProblem Table := do
  let names := ((rows.head?.getD []).map Prod.fst)
  let headings ← headings width names
  let cell (row : List (String × Value)) (name : String) : List Char :=
    plainCell ((row.lookup name).getD (.text ""))
  return ⟨some headings, names.length, rows.map fun row => names.map (cell row)⟩

/-- A table of names and values. -/
def entriesTable (entries : List (String × Value)) : Except MarkupProblem Table := do
  let keys ← showMarkup (entries.map Prod.fst)
  return ⟨none, 2, (keys.zip entries).map fun (key, entry) => [key, plainCell entry.2]⟩

/-- What is printed of a result. -/
def dataTexts (width : Nat) (data : Value) : Except MarkupProblem (List String) :=
  match rows? data, data with
  | some rows, _ => do return [(← rowsTable width rows).text width]
  | none, .mapping entries => do return [(← entriesTable entries).text width]
  | none, .null => .ok []
  | none, v => .ok [printed width (spoken v)]

/-- What is printed of a report, without its warnings. -/
def prints (width : Nat) (detail : Detail) (r : Report) : Except MarkupProblem (List Write) :=
  if r.ok then do return (← dataTexts width r.data).map fun text => ⟨.stdout, text, true⟩
  else
    let texts := match r.error with
      | none => [printed width "Error"]
      | some e => errorTexts width r.command detail e
    .ok (texts.map fun text => ⟨.stderr, text, true⟩)

/-- The report as it is shown to people, without its warnings. -/
def render (width : Nat) (detail : Detail) (r : Report) : Except MarkupProblem Output := do
  return Output.empty.after (← r.prints width detail)

/-- What is printed of the warnings. Their lines are broken at the end of the console. -/
def warningPrints (width : Nat) (warnings : List String) : List Write :=
  warnings.map fun w => ⟨.stderr, folded width ("Warning: " ++ w), true⟩

def errorValue (e : ErrorReport) : Value :=
  .mapping [("type", .text e.kind), ("message", .text e.message),
    ("hint", (e.hint.map .text).getD .null), ("details", (e.details.map .mapping).getD .null)]

/-- The report as one value; `elapsed` is how long the command took, in milliseconds. -/
def value (elapsed : Nat) (r : Report) : Value :=
  .mapping [("ok", .bool r.ok), ("command", .text r.command), ("data", r.data),
    ("warnings", .list (r.warnings.map .text)), ("meta", .mapping [("durationMs", .int elapsed)]),
    ("error", (r.error.map errorValue).getD .null)]

def json (elapsed : Nat) (r : Report) : String := Json.text (r.value elapsed) ++ "\n"

end Report

end RecordFilter.CommandLine
