/-!
# Log records

What the library has to say about its own work, apart from its results. An operation hands back the
records it wrote, in order; who calls it decides where they go.
-/

namespace RecordFilter

inductive Level
  | debug
  | info
  | warning
  deriving DecidableEq, Repr

namespace Level

def name : Level → String
  | debug => "DEBUG"
  | info => "INFO"
  | warning => "WARNING"

/-- Rank of a level: a reader who asks for one level also sees every level above it. -/
def rank : Level → Nat
  | debug => 0
  | info => 1
  | warning => 2

end Level

/-- One record: how important it is, which part of the program wrote it, and what it says. -/
structure LogRecord where
  level : Level
  source : String
  message : String
  deriving DecidableEq, Repr

/-- The record as one line of text. -/
def LogRecord.line (r : LogRecord) : String := r.level.name ++ " " ++ r.source ++ ": " ++ r.message

end RecordFilter
