import RecordFilter.Log
import RecordFilter.Normal.Bracket
import RecordFilter.Normal.Literal
import RecordFilter.Normal.Rule
import RecordFilter.Text.Quoted

/-!
# Normalizing a filter

A raw filter is brought into normal form in four steps: its quoted literals are put behind slots,
its brackets are repaired, the rules run until a pass changes nothing, and the literals return.
Removing one artifact can expose another (an empty group leaves a connective with nothing beside
it), so one pass is not enough; the passes are bounded by the length of the text, and `settle` says
whether they came to rest within that bound.
-/

namespace RecordFilter

namespace Normal

/-- Where repeated passes ended: the text, the number of passes made, and whether the last of them
changed nothing. -/
structure Settled where
  text : List Char
  passes : Nat
  settled : Bool
  deriving DecidableEq, Repr

/-- Repeat the pass, at most `bound` times after the `done` already made, until it changes nothing.
-/
def settle : (bound done : Nat) → List Char → Settled
  | 0, done, s => ⟨s, done, false⟩
  | bound + 1, done, s =>
    let next := rulePass s
    if next = s then ⟨s, done + 1, true⟩ else settle bound (done + 1) next

/-- The number of passes after which a text is given up. -/
def passBound (s : List Char) : Nat := s.length + 2

/-- The filter with slots for its literals and its brackets repaired: what the rules work on. -/
def prepared (raw : List Char) : List Char := balance (shield raw).text

/-- Where the rules bring a raw filter. -/
def settled (raw : List Char) : Settled := settle (passBound (prepared raw)) 0 (prepared raw)

end Normal

open RecordFilter.Normal

/-- The normal form of a raw filter. -/
def normalizeChars (raw : List Char) : List Char :=
  restore (shield raw).literals (settled raw).text

/-- The normal form of a raw filter. -/
def normalize (raw : String) : String := String.ofList (normalizeChars raw.toList)

/-- Is the filter its own normal form? -/
def isNormalized (s : String) : Bool := normalize s == s

/-- What normalizing a filter writes to the log. An empty filter is not worth a record. -/
def normalizeLog (raw : String) : List LogRecord :=
  let record (level : Level) (message : String) : LogRecord := ⟨level, "pbquery.normalize", message⟩
  let run := settled raw.toList
  if raw.isEmpty then []
  else
    (if prepared raw.toList = (shield raw.toList).text then []
      else [record .debug "Unbalanced brackets in filter buffer; repaired"])
    ++ (if run.settled then []
      else [record .warning s!"Filter normalization did not settle after {run.passes} passes"])
    ++ [record .debug s!"Normalized filter in {run.passes} passes: {Text.quoted (normalize raw)}"]

end RecordFilter
