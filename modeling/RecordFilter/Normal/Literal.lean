import RecordFilter.Text.Digit
import RecordFilter.Text.Replace

/-!
# Quoted literals and their slots

A quoted literal runs from a double quote to the next one; there is no escape. While the rules
run, each literal is replaced by a *slot*: its number between two sentinel characters. Slots
hold no bracket, blank, quote or connective, so no rule can look into a literal.

A text that already holds the sentinel is left alone, because its own characters could be taken for
a slot. A quote that is never closed is an ordinary character.
-/

namespace RecordFilter.Normal

open Text

/-- A piece of text: one character outside quotes, or a quoted literal with the given inside. -/
inductive Segment
  | bare (c : Char)
  | literal (inside : List Char)
  deriving DecidableEq, Repr

namespace Segment

def text : Segment → List Char
  | bare c => [c]
  | literal inside => '"' :: inside ++ ['"']

def literal? : Segment → Option (List Char)
  | bare _ => none
  | literal inside => some (literal inside).text

end Segment

/-- Cut a text into segments. The first argument is what an open quote has collected, last
character first. -/
def segmentsFrom : Option (List Char) → List Char → List Segment
  | none, [] => []
  | some inside, [] => ('"' :: inside.reverse).map .bare
  | none, c :: s => if c = '"' then segmentsFrom (some []) s else .bare c :: segmentsFrom none s
  | some inside, c :: s =>
    if c = '"' then .literal inside.reverse :: segmentsFrom none s
    else segmentsFrom (some (c :: inside)) s

def segments (s : List Char) : List Segment := segmentsFrom none s

/-- The quoted literals of a text in order, with their quotes. -/
def literals (s : List Char) : List (List Char) := (segments s).filterMap Segment.literal?

/-- The character on both sides of a slot's number. -/
def sentinel : Char := '\ue000'

def slot (n : Nat) : List Char := sentinel :: (Nat.repr n).toList ++ [sentinel]

/-- Write the segments with slots numbered from `n` in place of the literals. -/
def slotted : Nat → List Segment → List Char
  | _, [] => []
  | n, .bare c :: segs => c :: slotted n segs
  | n, .literal _ :: segs => slot n ++ slotted (n + 1) segs

/-- A text whose literals have been replaced by slots, and the literals. -/
structure Shielded where
  text : List Char
  literals : List (List Char)
  deriving DecidableEq, Repr

def shield (s : List Char) : Shielded :=
  if sentinel ∈ s then ⟨s, []⟩ else ⟨slotted 0 (segments s), literals s⟩

/-- The number of the slot that a text starts with, and the text behind it. -/
def readSlot? : List Char → Option (Nat × List Char)
  | [] => none
  | c :: s =>
    if c = sentinel then
      match s.takeWhile isDigit, s.dropWhile isDigit with
      | d :: ds, e :: rest => if e = sentinel then some (numberOfDigits (d :: ds), rest) else none
      | _, _ => none
    else none

/-- A slot with the number of one of the literals gives way to that literal. -/
def fillSlot (lits : List (List Char)) : Pattern := fun s => do
  let (n, rest) ← readSlot? s
  let lit ← lits[n]?
  return ⟨lit, rest⟩

/-- Put the literals back into their slots. -/
def restore (lits : List (List Char)) (s : List Char) : List Char :=
  if lits.isEmpty then s else replaceAll (fillSlot lits) s

/-- Characters on their own are their own text. -/
theorem text_map_bare (s : List Char) : (s.map Segment.bare).flatMap Segment.text = s := by
  induction s with
  | nil => rfl
  | cons c s ih => simp [Segment.text, ih]

theorem text_segmentsFrom (q : Option (List Char)) (s : List Char) :
    (segmentsFrom q s).flatMap Segment.text =
      (match q with | none => [] | some inside => '"' :: inside.reverse) ++ s := by
  induction s generalizing q with
  | nil =>
    cases q with
    | none => rfl
    | some inside => rw [segmentsFrom, text_map_bare]; simp
  | cons c s ih =>
    cases q with
    | none =>
      by_cases h : c = '"'
      · simp [segmentsFrom, h, ih]
      · simp [segmentsFrom, h, ih, Segment.text]
    | some inside =>
      by_cases h : c = '"'
      · simp [segmentsFrom, h, ih, Segment.text]
      · simp [segmentsFrom, h, ih]

/-- Cutting a text into segments loses nothing. -/
theorem text_segments (s : List Char) : (segments s).flatMap Segment.text = s :=
  text_segmentsFrom none s

end RecordFilter.Normal
