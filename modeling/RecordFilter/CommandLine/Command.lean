import RecordFilter.Builder
import RecordFilter.CommandLine.Settings

/-!
# Commands

The three commands: write one condition, normalize a filter, list the operators. A command first
reads its own arguments, among which a request for help comes before every complaint, and then
works. Its work ends with data, which the report is made of, or with a failure, and leaves records
for the log.
-/

namespace RecordFilter.CommandLine

inductive Command
  | condition
  | normalize
  | operators
  deriving DecidableEq, Repr

namespace Command

def all : List Command := [condition, normalize, operators]

def name : Command → String
  | condition => "condition"
  | normalize => "normalize"
  | operators => "operators"

def ofName? (s : String) : Option Command := all.find? fun c => c.name == s

def manual : Command → Manual
  | condition => conditionManual
  | normalize => normalizeManual
  | operators => operatorsManual

end Command

/-- The options of the commands. -/
inductive CommandOption
  | field
  | check
  | help
  deriving DecidableEq, Repr

def helpSpec : OptionSpec CommandOption := ⟨.help, ["-h", "--help"], false⟩

def Command.specs : Command → List (OptionSpec CommandOption)
  | condition => [⟨.field, ["--field"], true⟩, helpSpec]
  | normalize => [⟨.check, ["--check"], false⟩, helpSpec]
  | operators => [helpSpec]

/-- What a command is asked to do. -/
inductive Task
  /-- Write a condition; some names are allowed for its field, or all if none is given. -/
  | condition (allowed : List String) (field symbol value : String)
  /-- Normalize a text, or the input. -/
  | normalize (check : Bool) (text : Option String)
  | operators
  deriving DecidableEq, Repr

/-- The task that the operands of a command describe. -/
def Command.task (c : Command) (a : Arguments CommandOption) : Except Misuse Task :=
  match c, a.operands with
  | condition, [] => .error (.missing "FIELD")
  | condition, [_] => .error (.missing "OPERATOR")
  | condition, [field, symbol] => .ok (.condition (a.values .field) field symbol "")
  | condition, [field, symbol, value] => .ok (.condition (a.values .field) field symbol value)
  | condition, _ :: _ :: _ :: more => .error (.leftOver more)
  | normalize, [] => .ok (.normalize (a.has .check) none)
  | normalize, [text] => .ok (.normalize (a.has .check) (some text))
  | normalize, _ :: more => .error (.leftOver more)
  | operators, [] => .ok .operators
  | operators, more => .error (.leftOver more)

/-- Read the arguments of a command. -/
def Command.read (c : Command) (args : List String) : Except Dismissal Task := do
  let a ← readArguments c.manual c.specs true args
  if a.has .help then
    throw (.told (.manual c.manual))
  match c.task a with
  | .ok task => return task
  | .error p => throw (.misused c.manual p)

/-- Does a task read the input? -/
def Task.readsInput : Task → Bool
  | normalize _ none | normalize _ (some "-") => true
  | _ => false

/-- Where input comes from: a person at a terminal, who is not waited for, or a text. Input that is
no text, or that the system does not hand out, cannot be read. -/
inductive Input
  | terminal
  | text (s : String)
  | unreadable (cause : Failure)

/-- What a task ends with. -/
structure Done where
  data : Value
  /-- What is shown in place of the data, unless the report is JSON. -/
  text : Option String
  warnings : List String
  exitCode : Nat

/-- The outcome of a task, and its log. -/
structure Work where
  outcome : Except Failure Done
  log : List LogRecord

/-- The values of a condition that are not taken as text. -/
def spokenValue : String → Value
  | "true" => .bool true
  | "false" => .bool false
  | s => .text s

/-- Write a condition, by way of a builder that allows the given names. -/
def writeCondition (allowed : List String) (field symbol value : String) : Work :=
  let v := spokenValue value
  let constraint := if allowed.isEmpty then Constraint.free else Constraint.ofNames allowed
  match Operator.ofSymbol (.text symbol) with
  | .error e => ⟨.error (.filter e), []⟩
  | .ok op =>
    let written := (Builder.new constraint).compare op field v
    match written.error with
    | some e => ⟨.error (.filter e), written.log⟩
    | none =>
      let filter := normalize written.builder.query
      let data := Value.mapping [("field", .text field), ("operator", .text op.name), ("value", v),
        ("filter", .text filter)]
      let warnings := if filter.isEmpty then ["Empty value; the condition was omitted."] else []
      ⟨.ok ⟨data, some filter, warnings, 0⟩, written.log ++ normalizeLog written.builder.query⟩

/-- A text with every end of a line as a line feed. -/
def withLineFeeds : List Char → List Char
  | '\r' :: '\n' :: s => '\n' :: withLineFeeds s
  | '\r' :: s => '\n' :: withLineFeeds s
  | c :: s => c :: withLineFeeds s
  | [] => []

/-- The input as one filter: without the ends of lines behind it. -/
def inputFilter (text : String) : String :=
  String.ofList ((withLineFeeds text.toList).reverse.dropWhile (· = '\n')).reverse

/-- The filter to normalize. -/
def filterText (input : Input) : Option String → Except Failure String
  | none | some "-" =>
    match input with
    | .terminal =>
      .error (.mistake .usage "No filter given."
        (some "Pass the filter as an argument or pipe it on stdin."))
    | .text s => .ok (inputFilter s)
    | .unreadable cause => .error cause
  | some text => .ok text

/-- Normalize a filter, and fail the check if that changes it. -/
def normalizeFilter (check : Bool) (raw : String) : Work :=
  let filter := normalize raw
  let changed := filter != raw
  let noted : LogRecord := ⟨.info, "pbquery.cli.commands.normalize_cmd",
    "Normalized filter (" ++ (if changed then "changed" else "unchanged") ++ ")"⟩
  let data := Value.mapping [("input", .text raw), ("filter", .text filter), ("changed", .bool changed)]
  let refused := check && changed
  ⟨.ok ⟨data, some filter, if refused then ["Filter is not normalized."] else [],
    if refused then 1 else 0⟩, normalizeLog raw ++ [noted]⟩

/-- The operators as rows. -/
def operatorRows : Value :=
  .list (Operator.all.map fun op => .mapping [("name", .text op.name), ("symbol", .text op.symbol),
    ("method", .text op.method), ("any", .bool op.isAny)])

def Task.run (input : Input) : Task → Work
  | condition allowed field symbol value => writeCondition allowed field symbol value
  | normalize check text =>
    match filterText input text with
    | .ok raw => normalizeFilter check raw
    | .error f => ⟨.error f, []⟩
  | operators => ⟨.ok ⟨operatorRows, none, [], 0⟩, []⟩

end RecordFilter.CommandLine
