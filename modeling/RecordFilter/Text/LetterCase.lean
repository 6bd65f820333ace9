import RecordFilter.Text.LetterCaseTable

/-!
# Letter case

A text in upper or in lower case. A letter is replaced by its counterpart, and a character without
one stays as it is. Two lower case forms need more than that: the dotted capital i keeps its dot as
a character of its own, and the capital sigma has a form of its own at the end of a word.
-/

namespace RecordFilter.Text

namespace CaseRun

/-- Is the code point one of the letters of the run? -/
def holds (r : CaseRun) (n : Nat) : Bool :=
  r.first ≤ n && n ≤ r.last && (n - r.first) % r.step == 0

/-- The counterpart that the table has for a character; the character itself if it has none. -/
def counterpart (table : List CaseRun) (c : Char) : Char :=
  match table.find? (·.holds c.toNat) with
  | some r => Char.ofNat ((c.toNat : Int) + r.shift).toNat
  | none => c

end CaseRun

/-- The upper case of one character. -/
def upperChar (c : Char) : List Char :=
  match longUpper.lookup c.toNat with
  | some codes => codes.map Char.ofNat
  | none => [CaseRun.counterpart CaseRun.upper c]

/-- The text in upper case. -/
def upper (s : List Char) : List Char := s.flatMap upperChar

/-- Does the text start with a letter that has a case, behind what does not count? -/
def startsCased (s : List Char) : Bool :=
  match s.dropWhile fun c => caseIgnorable.holds c.toNat with
  | c :: _ => casedLetters.holds c.toNat
  | [] => false

/-- The lower case of a character: `before` is what stands in front of it, last character first, and
`after` what stands behind it. -/
def lowerChar (before : List Char) (c : Char) (after : List Char) : List Char :=
  if c = 'Σ' then [if startsCased before && !startsCased after then 'ς' else 'σ']
  else if c = 'İ' then ['i', '\u0307']
  else [CaseRun.counterpart CaseRun.lower c]

/-- Lower case from some place in a text on. -/
def lowerFrom : List Char → List Char → List Char
  | _, [] => []
  | before, c :: s => lowerChar before c s ++ lowerFrom (c :: before) s

/-- The text in lower case. -/
def lower (s : List Char) : List Char := lowerFrom [] s

end RecordFilter.Text
