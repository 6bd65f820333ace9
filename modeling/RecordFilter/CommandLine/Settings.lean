import RecordFilter.CommandLine.Report
import RecordFilter.CommandLine.Result
import RecordFilter.Number.Numeral
import RecordFilter.Text.Digit

/-!
# Settings

Options in front of the command's name hold for every command: how its report is shown, how much the
log says, and which file keeps the log. The log file is named by an option or else by an environment
variable, in which a tilde at the front stands for a home directory. The environment may also say
how many cells there are across the console.
-/

namespace RecordFilter.CommandLine

/-- What the program is run with. -/
structure Invocation where
  arguments : List String
  /-- A shell that asks for completions, by a variable of its own, is answered before the program is
  run. -/
  environment : List (String × String)
  /-- The home directory of a user; that of the caller under the empty name. -/
  home : String → Option String
  files : FileSystem
  /-- The cells across the console. -/
  width : Nat
  /-- How manuals are laid out for the terminal. -/
  layout : Manual → Sheet

/-- Read a number from the environment. A text counts for nothing if it does not consist of digits.
But if it does, and writes no number or one that is too long, that is an error. -/
def environmentNumber (text : String) : Except Failure (Option Nat) :=
  let digits := text.toList
  let leading := (digits.takeWhile Text.isDigit).length
  if digits.isEmpty || !digits.all fun c => Text.isDigit c || Text.otherDigits.holds c.toNat then
    .ok none
  else if Number.digitLimit < leading then
    .error (.unexpected "ValueError" [.text (s!"Exceeds the limit (4300 digits) for integer string " ++
      s!"conversion: value has {leading} digits; use sys.set_int_max_str_digits() to increase " ++
      "the limit")])
  else if leading < digits.length then
    .error (.unexpected "ValueError" [.text ("invalid literal for int() with base 10: " ++
      String.ofList ((Text.quoted text).toList.take 200))])
  else .ok (some (Text.numberOfDigits digits))

/-- The cells across a console if nothing is known of the terminal. -/
def usualWidth : Nat := 80

/-- The cells across the console: as many as the environment says, or as there are across the
terminal. The number of lines is not needed, but read too. -/
def consoleWidth (environment : List (String × String)) (terminal : Option Nat) :
    Except Failure Nat := do
  let number (name : String) : Except Failure (Option Nat) :=
    ((environment.lookup name).map environmentNumber).getD (.ok none)
  let columns ← number "COLUMNS"
  let _ ← number "LINES"
  match columns, terminal with
  | some n, _ => return n
  | none, some (n + 1) => return n + 1
  | none, _ => return usualWidth

inductive GlobalOption
  | output
  | json
  | quiet
  | verbose
  | logFile
  | noLogFile
  | version
  | help
  deriving DecidableEq, Repr

namespace GlobalOption

def specs : List (OptionSpec GlobalOption) :=
  [⟨output, ["--output"], true⟩, ⟨json, ["--json"], false⟩, ⟨quiet, ["-q", "--quiet"], false⟩,
   ⟨verbose, ["-v"], false⟩, ⟨logFile, ["--log-file"], true⟩, ⟨noLogFile, ["--no-log-file"], false⟩,
   ⟨version, ["--version"], false⟩, ⟨help, ["-h", "--help"], false⟩]

/-- The information that an option asks for. -/
def information? : GlobalOption → Option Information
  | version => some .version
  | help => some (.manual programManual)
  | _ => none

end GlobalOption

def outputForms : List String := ["table", "json"]

/-- The environment variable that names the log file. -/
def logVariable : String := "PBQUERY_LOG_FILE"

/-- Refuse a value of the option that names the log file. -/
def checkLogFile (files : FileSystem) (path : String) : Except Dismissal Unit :=
  if path.contains (Char.ofNat 0) then .error (.broken .nulInPath)
  else if path = "" || FileSystem.isTooLong path then .ok ()
  else if files.find (Path.ofString path) = .directory then
    .error (.misused programManual (.directory "--log-file" path))
  else if files.hidesFile (Path.ofString path) then
    .error (.misused programManual (.notReadable "--log-file" path))
  else .ok ()

/-- Refuse the value of an option, if it is one whose values are restricted. -/
def checkOption (files : FileSystem) (a : Arguments GlobalOption) :
    GlobalOption → Except Dismissal Unit
  | .output =>
    let form := (a.value? .output).getD ""
    if outputForms.contains form then .ok ()
    else .error (.misused programManual (.notOneOf "--output" form outputForms))
  | .logFile => checkLogFile files ((a.value? .logFile).getD "")
  | _ => .ok ()

/-- Read the options in front of the command. The first option that asks for information ends the
run; after that the values are checked in the order in which they are given. -/
def readGlobal (files : FileSystem) (args : List String) :
    Except Dismissal (Arguments GlobalOption) := do
  let a ← readArguments programManual GlobalOption.specs false args
  let given := a.options.map Prod.fst
  if let some information := given.findSome? GlobalOption.information? then
    throw (.told information)
  given.forM (checkOption files a)
  return a

/-- The path behind a tilde at the front, with a home directory in place of the tilde and the user's
name that may follow it. -/
def withHome (home : String → Option String) (path : Path) : Except Breakdown Path :=
  match path.isAbsolute, path.parts with
  | false, first :: rest =>
    match first.toList with
    | '~' :: user =>
      match home (String.ofList user) with
      | none => .error .homeUnknown
      | some dir =>
        if dir.startsWith "~" then .error .homeUnknown
        else .ok ((Path.ofString (if dir = "" then "/" else dir)).join ⟨"", rest⟩)
    | _ => .ok path
  | _, _ => .ok path

/-- The log file that the environment names. -/
def environmentLogFile (inv : Invocation) : Except Breakdown (Option Path) :=
  let value := Text.trim ((inv.environment.lookup logVariable).getD "").toList
  if value.isEmpty then .ok none
  else (withHome inv.home (Path.ofString (String.ofList value))).map some

/-- The log file that is named, whether it is wanted or not. -/
def namedLogFile (inv : Invocation) (a : Arguments GlobalOption) : Except Breakdown (Option Path) :=
  match a.value? .logFile with
  | none | some "" => environmentLogFile inv
  | some path => .ok (some (Path.ofString path))

/-- Open the log file, if one is named and wanted. -/
def openLog (inv : Invocation) (a : Arguments GlobalOption) : Except Breakdown (Option Path) :=
  match namedLogFile inv a with
  | .error b => .error b
  | .ok none => .ok none
  | .ok (some path) =>
    if a.has .noLogFile then .ok none
    else
      match inv.files.openFile path with
      | .ok target => .ok (some target)
      | .error cause => .error (.noLogFile cause)

structure Settings where
  /-- Is the report written as JSON? -/
  json : Bool
  detail : Report.Detail
  deriving DecidableEq, Repr

def Settings.ofArguments (a : Arguments GlobalOption) : Settings :=
  ⟨a.has .json || a.value? .output = some "json", ⟨a.has .quiet, a.count .verbose⟩⟩

end RecordFilter.CommandLine
