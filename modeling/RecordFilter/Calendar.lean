import RecordFilter.Number.Numeral

/-!
# Dates and moments

Days of the calendar, moments of a day, and distances from universal time, with the two ways in
which they are written: as a date and time of day in the usual order, largest unit first, and as the
constructor call that makes them.
-/

namespace RecordFilter

open Number (padded)

structure Date where
  year : Nat
  month : Nat
  day : Nat
  deriving DecidableEq, Repr

/-- A distance from universal time, in microseconds; positive to the east. -/
structure Offset where
  micros : Int
  deriving DecidableEq, Repr

/-- A moment of a day, perhaps with the distance of its clock from universal time. -/
structure Moment where
  date : Date
  hour : Nat
  minute : Nat
  second : Nat
  micro : Nat
  offset : Option Offset
  deriving DecidableEq, Repr

/-- Year, month and day. -/
def Date.text (d : Date) : String := s!"{padded 4 d.year}-{padded 2 d.month}-{padded 2 d.day}"

/-- The date that comes a number of days after the first of January 1970. Years are counted from the
first of March here, so that the day that a leap year adds is the last one of its year. -/
def Date.ofDayNumber (days : Nat) : Date :=
  let n := days + 719468
  let day := n % 146097
  let year := (day - day / 1460 + day / 36524 - day / 146096) / 365
  let dayOfYear := day - (365 * year + year / 4 - year / 100)
  let month := (5 * dayOfYear + 2) / 153
  let late := decide (10 ≤ month)
  ⟨year + n / 146097 * 400 + (if late then 1 else 0), if late then month - 9 else month + 3,
    dayOfYear - (153 * month + 2) / 5 + 1⟩

example : Date.ofDayNumber 0 = ⟨1970, 1, 1⟩ := by decide
example : Date.ofDayNumber 19782 = ⟨2024, 2, 29⟩ := by decide
example : Date.ofDayNumber 47541 = ⟨2100, 3, 1⟩ := by decide

def Date.constructorText (d : Date) : String := s!"datetime.date({d.year}, {d.month}, {d.day})"

namespace Offset

def ofSeconds (seconds micros : Int) : Offset := ⟨seconds * 1000000 + micros⟩

/-- Whole seconds, rounded down. -/
def seconds (o : Offset) : Int := Int.fdiv o.micros 1000000

/-- The microseconds above the whole seconds. -/
def microPart (o : Offset) : Nat := (Int.fmod o.micros 1000000).toNat

/-- Sign, hours and minutes; seconds and microseconds only as far as they are not zero. -/
def text (o : Offset) : String :=
  let sign := if o.micros < 0 then "-" else "+"
  let micro := o.micros.natAbs % 1000000
  let total := o.micros.natAbs / 1000000
  let second := total % 60
  let clock := s!"{sign}{padded 2 (total / 3600)}:{padded 2 (total / 60 % 60)}"
  let fine := if micro = 0 then "" else "." ++ padded 6 micro
  if second = 0 ∧ micro = 0 then clock else clock ++ ":" ++ padded 2 second ++ fine

/-- The distance in days, seconds and microseconds, of which only the days may be negative and only
the parts that are not zero are named. -/
def deltaText (o : Offset) : String :=
  let days := Int.fdiv o.seconds 86400
  let second := Int.fmod o.seconds 86400
  let named (label : String) (n : Int) : List String := if n = 0 then [] else [label ++ "=" ++ toString n]
  let parts := named "days" days ++ named "seconds" second ++ named "microseconds" o.microPart
  "datetime.timedelta(" ++ (if parts.isEmpty then "0" else ", ".intercalate parts) ++ ")"

def constructorText (o : Offset) : String :=
  if o.micros = 0 then "datetime.timezone.utc" else "datetime.timezone(" ++ o.deltaText ++ ")"

end Offset

namespace Moment

/-- Date and time of day with a space between them; microseconds only if there are any. -/
def text (m : Moment) : String :=
  let clock := s!"{m.date.text} {padded 2 m.hour}:{padded 2 m.minute}:{padded 2 m.second}"
  let fine := if m.micro = 0 then "" else "." ++ padded 6 m.micro
  clock ++ fine ++ (m.offset.map Offset.text).getD ""

/-- The parts that the constructor is called with: a zero at the end is left out, first the
microseconds and then the seconds. -/
def constructorParts (m : Moment) : List Nat :=
  [m.date.year, m.date.month, m.date.day, m.hour, m.minute] ++
    (if m.micro ≠ 0 then [m.second, m.micro] else if m.second ≠ 0 then [m.second] else [])

def constructorText (m : Moment) : String :=
  let zone := (m.offset.map fun o => ", tzinfo=" ++ o.constructorText).getD ""
  "datetime.datetime(" ++ ", ".intercalate (m.constructorParts.map toString) ++ zone ++ ")"

end Moment

end RecordFilter
