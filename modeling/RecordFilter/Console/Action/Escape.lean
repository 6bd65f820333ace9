import RecordFilter.Console.Action.Token

/-!
# Escapes in string literals

A backslash in a string literal may introduce a character by its code. A code with too few digits is
an error, which tells the place of the code: for strings by a range, in which each character outside
of ASCII counts as much as the longest code, and for bytes by its start. Bytes hold ASCII characters
only.
-/

namespace RecordFilter.Console.Action

/-- The letters that introduce codes, with the number of digits that have to follow. -/
def codeLength? : Char → Option Nat
  | 'x' => some 2
  | 'u' => some 4
  | 'U' => some 8
  | _ => none

/-- The places that a character takes up. -/
def places (c : Char) : Nat := if c.toNat < 128 then 1 else 10

/-- A code that takes up the given places cannot be read. -/
def unreadable (first count : Nat) (reason : String) : String :=
  s!"(unicode error) 'unicodeescape' codec can't decode bytes in position {first}-{first + count - 1}: " ++
    reason

def hexValue (ds : List Char) : Nat :=
  ds.foldl (fun n c => 16 * n + (if c.isDigit then c.toNat - '0'.toNat else c.toLower.toNat - 'a'.toNat + 10)) 0

/-- What is wrong with the code that a text starts with, behind the backslash; `first` is the place
of the backslash. -/
def codeProblem? (first : Nat) : List Char → Option String
  | 'N' :: '\x7b' :: s =>
    let name := s.takeWhile (· != '\x7d')
    if name.isEmpty || s.length = name.length then
      some (unreadable first (name.foldl (fun n c => n + places c) 3) "malformed \\N character escape")
    else none
  | 'N' :: _ => some (unreadable first 2 "malformed \\N character escape")
  | letter :: s =>
    match codeLength? letter with
    | none => none
    | some count =>
      let digits := (s.take count).takeWhile isHex
      if digits.length < count then
        let wanted := String.ofList (List.replicate count 'X')
        some (unreadable first (2 + digits.length) s!"truncated \\{letter}{wanted} escape")
      else if 0x10ffff < hexValue digits then
        some (unreadable first (2 + count) "illegal Unicode character")
      else none
  | [] => none

/-- The first problem in the inside of a string; the first argument is the place where it starts. -/
def textProblem? : Nat → List Char → Option String
  | _, [] => none
  | n, '\\' :: c :: s =>
    match codeProblem? n (c :: s) with
    | some m => some m
    | none => if c.toNat < 128 then textProblem? (n + 2) s else textProblem? (n + 6 + places c) s
  | n, c :: s => textProblem? (n + places c) s

/-- The first code in the inside of bytes that has too few digits. -/
def bytesProblem? : Nat → List Char → Option String
  | _, [] => none
  | n, '\\' :: c :: s =>
    if c == 'x' && ((s.take 2).takeWhile isHex).length < 2 then
      some s!"(value error) invalid \\x escape at position {n}"
    else bytesProblem? (n + 2) s
  | n, _ :: s => bytesProblem? (n + 1) s

/-- The first problem with the braces in the inside of a string with fields. The first argument
holds the fields that are open, each by what was read of it so far, innermost first. -/
def fieldProblem? : List (List Char) → List Char → Option String
  | [], [] => none
  | _ :: _, [] => some "f-string: expecting '\x7d'"
  | [], '\x7b' :: '\x7b' :: s | [], '\x7d' :: '\x7d' :: s => fieldProblem? [] s
  | [], '\x7d' :: _ => some "f-string: single '\x7d' is not allowed"
  | opened, '\x7b' :: s => fieldProblem? ([] :: opened) s
  | field :: opened, '\x7d' :: s =>
    if field.all isLayout then some "f-string: empty expression not allowed" else fieldProblem? opened s
  | field :: opened, c :: s => fieldProblem? ((c :: field) :: opened) s
  | [], _ :: s => fieldProblem? [] s

/-- The first problem in the inside of a string literal. -/
def bodyProblem? (form : StringForm) (body : List Char) : Option String :=
  if form.isBytes && body.any fun c => 128 ≤ c.toNat then
    some "bytes can only contain ASCII literal characters"
  else
    let codes :=
      if form.isRaw then none
      else if form.isBytes then bytesProblem? 0 body
      else textProblem? 0 body
    codes <|> if form.hasFields then fieldProblem? [] body else none

/-- The first problem in string literals that stand next to each other and make one string. -/
def stringsProblem? : Option Bool → List (StringForm × List Char) → Option String
  | _, [] => none
  | kind, (form, body) :: rest =>
    match bodyProblem? form body with
    | some m => some m
    | none =>
      if kind = some (!form.isBytes) then some "cannot mix bytes and nonbytes literals"
      else stringsProblem? (some form.isBytes) rest

end RecordFilter.Console.Action
