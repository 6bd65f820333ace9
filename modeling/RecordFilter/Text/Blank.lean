import RecordFilter.Text.CharRange

/-!
# Blanks

Blanks are the characters that separate the parts of a filter: the ASCII layout characters, the four
information separators, and the Unicode spaces, line and paragraph separators. A run of blanks means
the same as one space, so the functions here drop runs of them from the two ends of a text, or split
it into the words between them.
-/

namespace RecordFilter.Text

/-- The code points of the blanks. -/
def blanks : CharClass :=
  [(0x09, 0x0d), (0x1c, 0x20), (0x85, 0x85), (0xa0, 0xa0), (0x1680, 0x1680), (0x2000, 0x200a),
   (0x2028, 0x2029), (0x202f, 0x202f), (0x205f, 0x205f), (0x3000, 0x3000)]

def isBlank (c : Char) : Bool := blanks.holds c.toNat

/-- The text from its first character that is not blank. -/
def skipBlanks (s : List Char) : List Char := s.dropWhile isBlank

/-- The text up to its last character that is not blank. -/
def dropTrailingBlanks (s : List Char) : List Char := (s.reverse.dropWhile isBlank).reverse

/-- The text without the blanks at its two ends. -/
def trim (s : List Char) : List Char := dropTrailingBlanks (skipBlanks s)

/-- The words between blanks. The first argument is the word being read, last character first. -/
def wordsFrom : List Char → List Char → List (List Char)
  | word, [] => if word.isEmpty then [] else [word.reverse]
  | word, c :: s =>
    if isBlank c then
      if word.isEmpty then wordsFrom [] s else word.reverse :: wordsFrom [] s
    else wordsFrom (c :: word) s

/-- The words that blanks separate. -/
def words (s : List Char) : List (List Char) := wordsFrom [] s

@[simp] theorem skipBlanks_nil : skipBlanks [] = [] := rfl

theorem skipBlanks_cons (c : Char) (s : List Char) :
    skipBlanks (c :: s) = if isBlank c then skipBlanks s else c :: s := by
  cases h : isBlank c <;> simp [skipBlanks, h]

/-- Skipping blanks never makes a text longer. -/
theorem length_skipBlanks_le (s : List Char) : (skipBlanks s).length ≤ s.length := by
  induction s with
  | nil => simp
  | cons c s ih =>
    rw [skipBlanks_cons]
    split
    · exact Nat.le_succ_of_le ih
    · exact Nat.le_refl _

/-- Skipping blanks leaves a text that starts with none, so skipping again changes nothing. -/
@[simp] theorem skipBlanks_skipBlanks (s : List Char) :
    skipBlanks (skipBlanks s) = skipBlanks s := by
  induction s with
  | nil => rfl
  | cons c s ih =>
    cases h : isBlank c
    · simp [skipBlanks_cons, h]
    · simpa [skipBlanks_cons, h] using ih

end RecordFilter.Text
