import RecordFilter.CommandLine.Files
import RecordFilter.CommandLine.Manual
import RecordFilter.CommandLine.Output
import RecordFilter.Log

/-!
# Results

What comes of running the program: an exit code, the text on the two output streams, and the records
in the log file. Some errors are not reported in the usual way: the program breaks down. A run whose
arguments ask for information, make no sense or name no log file that can be opened is dismissed
before it has anything to do.
-/

namespace RecordFilter.CommandLine

/-- What the program does not recover from. -/
inductive Breakdown
  | nulInPath
  | homeUnknown
  | noLogFile (cause : FileError)
  /-- There was an error when a failure was reported, or later. -/
  | unreported (message : String)
  /-- Nobody reads the output any more, and the program leaves in silence. -/
  | brokenPipe
  /-- Output is lost that has been waiting to be written out until the very end. -/
  | unflushed
  deriving DecidableEq, Repr

def Breakdown.message : Breakdown → String
  | nulInPath => "embedded null byte"
  | homeUnknown => "Could not determine home directory."
  | noLogFile cause => cause.message
  | unreported message => message
  | brokenPipe | unflushed => ""

/-- A log file that was opened, and the records in it. -/
structure FileLog where
  path : Path
  records : List LogRecord
  deriving DecidableEq, Repr

@[ext]
structure Result where
  exitCode : Nat
  output : Output
  breakdown : Option Breakdown
  fileLog : Option FileLog
  deriving DecidableEq, Repr

/-- The program breaks down before it has shown anything. -/
def Result.broken (b : Breakdown) : Result := ⟨1, .empty, some b, none⟩

/-- Why a run is dismissed. -/
inductive Dismissal
  /-- The caller asked for information. -/
  | told (i : Information)
  /-- The arguments of a command make no sense. -/
  | misused (manual : Manual) (m : Misuse)
  | broken (b : Breakdown)

/-- The arguments of a command, unless they cannot be read. -/
def readArguments {κ : Type} (manual : Manual) (specs : List (OptionSpec κ)) (mixed : Bool)
    (args : List String) : Except Dismissal (Arguments κ) :=
  match Arguments.read specs mixed args with
  | .ok a => .ok a
  | .error p => .error (.misused manual (.unreadable p))

end RecordFilter.CommandLine
