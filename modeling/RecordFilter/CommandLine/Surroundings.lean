import RecordFilter.CommandLine.Failure
import RecordFilter.CommandLine.Logging
import RecordFilter.CommandLine.LogLine
import RecordFilter.CommandLine.Output

/-!
# Surroundings

What a run meets with while it is at work: streams that may refuse what is written to them, devices
that log files may turn out to be, a console that may be impossible to make. Whether something is
refused may depend on what has been written before. A record that cannot be written does not keep
the run from going on; there is a complaint on the second stream in its place. Anything else that
cannot be written is a failure.
-/

namespace RecordFilter.CommandLine

/-- What a stream does with a piece of text. If it refuses it, some of it may have been shown. -/
inductive Reply
  | taken
  | refused (shown : String) (cause : Failure)

/-- What is found behind the path of a log file. -/
structure Device where
  /-- Why a record is refused, behind others. -/
  refusal? : List LogRecord → LogRecord → Option Failure
  /-- Why the file cannot be closed, after the records. -/
  closing? : List LogRecord → Option Failure
  /-- The stream that shows what is written. -/
  echo? : Option Stream

/-- A file on a disk with enough room. -/
def Device.file : Device := ⟨fun _ _ => none, fun _ => none, none⟩

structure Surroundings where
  reply : Output → Write → Reply
  /-- Is something of the output still waiting to be written out at the end, and lost then? -/
  loses : Output → Bool
  /-- Why no console can be made. -/
  noConsole? : Option Failure
  device : Path → Device
  /-- The handlers of the loggers above the program's own. -/
  above : List Handler
  /-- The time at which a record is written to a file, in milliseconds, by the number of records in
  files before it. -/
  clock : Nat → Nat
  complaint : LogRecord → Failure → String

/-- Nothing is refused. -/
def Surroundings.reliable : Surroundings where
  reply _ _ := .taken
  loses _ := false
  noConsole? := none
  device _ := .file
  above := []
  clock _ := 0
  complaint _ _ := ""

/-- A record that was handed to a log file, which may have refused it. -/
structure Entry where
  path : Path
  record : LogRecord
  kept : Bool
  deriving DecidableEq, Repr

/-- What has come of a run so far. -/
structure Progress where
  output : Output
  entries : List Entry
  deriving DecidableEq, Repr

namespace Progress

/-- The records that were handed to a log file. -/
def handedTo (path : Path) (s : Progress) : List LogRecord :=
  (s.entries.filter (·.path = path)).map Entry.record

/-- The records that a log file holds. -/
def keptIn (path : Path) (s : Progress) : List LogRecord :=
  (s.entries.filter fun e => e.path = path && e.kept).map Entry.record

def enter (s : Progress) (path : Path) (r : LogRecord) (kept : Bool) : Progress :=
  { s with entries := s.entries ++ [⟨path, r, kept⟩] }

end Progress

namespace Surroundings

variable (w : Surroundings)

/-- Write a piece, and say why it was refused. -/
def write (out : Output) (piece : Write) : Output × Option Failure :=
  match w.reply out piece with
  | .taken => (out.add piece.stream piece.text, none)
  | .refused shown cause => (out.add piece.stream shown, some cause)

/-- A complaint that cannot be written is dropped. -/
def complain (r : LogRecord) (cause : Failure) (s : Progress) : Progress :=
  { s with output := (w.write s.output ⟨.stderr, w.complaint r cause, false⟩).1 }

/-- Hand a record to a handler. -/
def handle (r : LogRecord) (s : Progress) (h : Handler) : Progress :=
  match h.sink with
  | .console =>
    match w.write s.output ⟨.stderr, r.line ++ "\n", false⟩ with
    | (out, none) => { s with output := out }
    | (out, some cause) => w.complain r cause { s with output := out }
  | .file path =>
    match (w.device path).refusal? (s.handedTo path) r with
    | some cause => w.complain r cause (s.enter path r false)
    | none =>
      let line := logLine (w.clock s.entries.length) r ++ "\n"
      let output := ((w.device path).echo?.map fun stream => s.output.add stream line).getD s.output
      { s.enter path r true with output := output }

/-- Log a record. -/
def log (l : Logger) (s : Progress) (r : LogRecord) : Progress :=
  (l.recipients w.above r).foldl (w.handle r) s

/-- Log the records of a run. -/
def logAll (l : Logger) (records : List LogRecord) : Progress :=
  records.foldl (w.log l) ⟨.empty, []⟩

/-- Why the handlers of the logger cannot be closed. -/
def closing? (l : Logger) (s : Progress) : Option Failure :=
  l.files.findSome? fun path => (w.device path).closing? (s.handedTo path)

end Surroundings

/-- Why the run of a program stops before it has written everything. -/
inductive Stop
  | failed (cause : Failure)
  /-- A console falls silent, and ends the program. -/
  | silenced

/-- A step of showing something: to write a piece, unless it cannot be made. -/
abbrev Step := Except Failure Write

/-- Write one piece after the other, as long as it goes well. -/
def Surroundings.perform (w : Surroundings) : Output → List Step → Output × Option Stop
  | out, [] => (out, none)
  | out, .error cause :: _ => (out, some (.failed cause))
  | out, .ok piece :: steps =>
    match w.write out piece with
    | (out, none) => w.perform out steps
    | (out, some cause) =>
      (out, some (if piece.printed && cause.silencesConsole then .silenced else .failed cause))

end RecordFilter.CommandLine
