import RecordFilter.CommandLine.Files
import RecordFilter.Log

/-!
# Logging

A logger lets records through from a level on and hands each of them to its handlers, which have
levels of their own. There is a handler for the console and, if a log file is kept, one for the
file. The file is to hold everything, so the logger then lets everything through, and it is left to
the handler for the console to keep from it what the user does not want to see. Nothing is handed on
to the loggers above. When the run is over, the handlers are closed.
-/

namespace RecordFilter.CommandLine

/-- Where a handler writes. -/
inductive Sink
  | console
  | file (path : Path)
  deriving DecidableEq, Repr

structure Handler where
  level : Level
  sink : Sink
  deriving DecidableEq, Repr

structure Logger where
  level : Level
  handlers : List Handler
  /-- Are records handed on to the loggers above? -/
  propagates : Bool
  deriving DecidableEq, Repr

/-- The least level of records that a user wants to see. -/
def Level.ofVerbosity : Nat → Level
  | 0 => .warning
  | 1 => .info
  | _ => .debug

namespace Logger

/-- The logger as it is set up for a run. The handlers it had before are taken away. -/
def configured (verbosity : Nat) : Option Path → Logger
  | none =>
    ⟨Level.ofVerbosity verbosity, [⟨Level.ofVerbosity verbosity, .console⟩], false⟩
  | some path =>
    ⟨.debug, [⟨Level.ofVerbosity verbosity, .console⟩, ⟨.debug, .file path⟩], false⟩

/-- The handlers that a record comes to; `above` are those of the loggers above. -/
def recipients (above : List Handler) (l : Logger) (r : LogRecord) : List Handler :=
  if r.level.rank < l.level.rank then []
  else
    (l.handlers ++ if l.propagates then above else []).filter fun h =>
      h.level.rank ≤ r.level.rank

/-- The files that are closed when the run is over. -/
def files (l : Logger) : List Path :=
  l.handlers.filterMap fun h => match h.sink with
    | .console => none
    | .file path => some path

end Logger

end RecordFilter.CommandLine
