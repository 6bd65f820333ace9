/-!
# Connectives

The two words that join conditions: both sides must hold, or one of them is enough.
-/

namespace RecordFilter

inductive Connective
  | and
  | or
  deriving DecidableEq, Repr

namespace Connective

def all : List Connective := [.and, .or]

def symbol : Connective → String
  | .and => "&&"
  | .or => "||"

/-- The connective with the one space on each side that separates it from its operands. -/
def spaced (c : Connective) : String := " " ++ c.symbol ++ " "

/-- The connective that a text starts with, and the text behind it. -/
def read? : List Char → Option (Connective × List Char)
  | '&' :: '&' :: rest => some (.and, rest)
  | '|' :: '|' :: rest => some (.or, rest)
  | _ => none

/-- Reading a connective takes exactly its symbol from the front. -/
theorem read?_eq_some {s rest : List Char} {c : Connective} :
    read? s = some (c, rest) ↔ s = c.symbol.toList ++ rest := by
  constructor
  · intro h
    unfold read? at h
    split at h
    · cases h; rfl
    · cases h; rfl
    · cases h
  · rintro rfl
    cases c <;> rfl

end Connective

end RecordFilter
