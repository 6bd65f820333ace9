import RecordFilter.CommandLine.Argument
import RecordFilter.Text.Replace

/-!
# Manuals

What the program says about its own use. Every command has a manual: a line that shows how to call
it, and a page behind that line. A caller whose arguments make no sense is shown the line, where to
find the page, and what is wrong.
-/

namespace RecordFilter.CommandLine

open Text (Pattern quoted replaceAll)

/-- The manual of a command: the words that call it, the arguments behind them, and the page. -/
structure Manual where
  name : String
  arguments : String
  page : List String

/-- A manual as it is laid out for a terminal: the line that shows how to call the command, and that
line with the page behind it. -/
structure Sheet where
  usage : String
  text : String
  deriving DecidableEq, Repr

namespace Manual

def usage (m : Manual) : String := "Usage: " ++ m.name ++ " " ++ m.arguments ++ "\n"

def text (m : Manual) : String := m.usage ++ "\n" ++ String.join (m.page.map fun line => line ++ "\n")

/-- The manual for a terminal with at least eighty cells in a line. -/
def sheet (m : Manual) : Sheet := ⟨m.usage, m.text⟩

/-- Where a caller finds the page. -/
def advice (m : Manual) : String := "Try " ++ quoted (m.name ++ " -h") ++ " for help.\n"

end Manual

def programManual : Manual where
  name := "pbquery"
  arguments := "[OPTIONS] COMMAND [ARGS]..."
  page :=
    [ "Options:",
      "  --output [table|json]",
      "  --json                 Alias for --output json.",
      "  -q, --quiet            Suppress non-essential stderr output.",
      "  -v                     Increase verbosity (-v, -vv).",
      "  --log-file FILE        Write debug logs to this file (default:",
      "                         $PBQUERY_LOG_FILE).",
      "  --no-log-file          Disable file logging explicitly.",
      "  --version              Show the version and exit.",
      "  -h, --help             Show this message and exit.",
      "",
      "Commands:",
      "  condition  Encode one FIELD OPERATOR VALUE condition.",
      "  normalize  Clean up a raw filter: drop empty groups and dangling...",
      "  operators  List the filter operators and their builder methods." ]

def conditionManual : Manual where
  name := "pbquery condition"
  arguments := "[OPTIONS] FIELD OPERATOR [VALUE]"
  page :=
    [ "  Encode one FIELD OPERATOR VALUE condition.",
      "",
      "  OPERATOR is a filter symbol such as '=' or '?~'. VALUE 'true' or 'false' is",
      "  written unquoted; an empty or missing VALUE yields an empty filter.",
      "",
      "Options:",
      "  --field NAME  Restrict field names (repeatable). System fields are always",
      "                allowed.",
      "  -h, --help    Show this message and exit." ]

def normalizeManual : Manual where
  name := "pbquery normalize"
  arguments := "[OPTIONS] [TEXT]"
  page :=
    [ "  Clean up a raw filter: drop empty groups and dangling connectives.",
      "",
      "  TEXT is read from stdin when omitted or '-'.",
      "",
      "Options:",
      "  --check     Exit with status 1 when the input is not already normalized.",
      "  -h, --help  Show this message and exit." ]

def operatorsManual : Manual where
  name := "pbquery operators"
  arguments := "[OPTIONS]"
  page :=
    [ "  List the filter operators and their builder methods.",
      "",
      "Options:",
      "  -h, --help  Show this message and exit." ]

def versionText : String := "pbquery, version 0.5.0\n"

/-- What a caller may ask for instead of running a command. -/
inductive Information
  | version
  | manual (m : Manual)

/-- The information as it is shown; `layout` lays manuals out for the terminal. -/
def Information.text (layout : Manual → Sheet) : Information → String
  | version => versionText
  | manual m => (layout m).text

/-- What is wrong with the arguments of a command. -/
inductive Misuse
  | unreadable (problem : ArgumentProblem)
  | notOneOf (option value : String) (choices : List String)
  | directory (option path : String)
  | notReadable (option path : String)
  | noSuchCommand (name : String)
  | missing (operand : String)
  | leftOver (operands : List String)
  deriving DecidableEq, Repr

namespace Misuse

def message : Misuse → String
  | unreadable problem => problem.message
  | notOneOf option value choices =>
    "Invalid value for " ++ quoted option ++ ": " ++ quoted value ++ " is not one of " ++
      ", ".intercalate (choices.map quoted) ++ "."
  | directory option path =>
    "Invalid value for " ++ quoted option ++ ": File " ++ quoted path ++ " is a directory."
  | notReadable option path =>
    "Invalid value for " ++ quoted option ++ ": File " ++ quoted path ++ " is not readable."
  | noSuchCommand name => "No such command " ++ quoted name ++ "."
  | missing operand => "Missing argument " ++ quoted operand ++ "."
  | leftOver [one] => "Got unexpected extra argument (" ++ one ++ ")"
  | leftOver many => "Got unexpected extra arguments (" ++ " ".intercalate many ++ ")"

/-- Is the manual shown with the message? Not if an option is there but its value is wrong to be
there or to be missing. -/
def showsManual : Misuse → Bool
  | unreadable (.needsValue _) | unreadable (.takesNoValue _) => false
  | _ => true

/-- A terminal's escape sequence: an escape, a square bracket, then digits, semicolons and question
marks up to a letter. It is not shown. -/
def escapeSequence : Pattern
  | '\x1b' :: '[' :: s =>
    match s.dropWhile fun c => c.isDigit || c = ';' || c = '?' with
    | c :: rest => if c.isAlpha then some ⟨[], rest⟩ else none
    | [] => none
  | _ => none

/-- What a caller is told. -/
def text (layout : Manual → Sheet) (manual : Manual) (p : Misuse) : String :=
  (if p.showsManual then (layout manual).usage ++ manual.advice ++ "\n" else "") ++
    "Error: " ++ String.ofList (replaceAll escapeSequence p.message.toList) ++ "\n"

end Misuse

end RecordFilter.CommandLine
