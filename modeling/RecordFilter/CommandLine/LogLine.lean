import RecordFilter.Calendar
import RecordFilter.Log

/-!
# Lines of the log file

In the log file each record stands behind the time at which it was written, which ends with three
digits for the milliseconds.
-/

namespace RecordFilter

open Number (padded)

/-- The moment that comes a number of seconds after the start of 1970, on the clock of universal
time. -/
def Moment.ofSeconds (seconds : Nat) : Moment :=
  let second := seconds % 86400
  ⟨Date.ofDayNumber (seconds / 86400), second / 3600, second / 60 % 60, second % 60, 0, none⟩

namespace CommandLine

/-- The time in front of a record; `millis` counts the milliseconds since the start of 1970. -/
def timeStamp (millis : Nat) : String :=
  (Moment.ofSeconds (millis / 1000)).text ++ "," ++ padded 3 (millis % 1000)

example : timeStamp 1709210096007 = "2024-02-29 12:34:56,007" := by decide +kernel

/-- A record as the log file holds it. -/
def logLine (millis : Nat) (r : LogRecord) : String := timeStamp millis ++ " " ++ r.line

end CommandLine

end RecordFilter
