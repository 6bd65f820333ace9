import RecordFilter.Connective
import RecordFilter.Operator
import RecordFilter.Text.Blank
import RecordFilter.Text.Replace
import RecordFilter.Text.Word

/-!
# Clean-up rules

Each rule removes one kind of artifact that dropped conditions leave behind: empty groups,
connectives with nothing on one side, doubled connectives, a group that lost the connective to the
condition after it, and uneven spacing. A rule is applied to the whole text before the next one sees
it; `rulePass` applies all nine in order and trims the ends. Blanks may stand between the parts of
every pattern.
-/

namespace RecordFilter.Normal

open Text

/-- The connective after any blanks, and the text behind it. -/
def connectiveAhead? (s : List Char) : Option (Connective × List Char) :=
  Connective.read? (skipBlanks s)

/-- An opening bracket and its closing bracket with nothing between them. -/
def emptyGroup : Pattern
  | '(' :: s =>
    match skipBlanks s with
    | ')' :: rest => some ⟨[], rest⟩
    | _ => none
  | _ => none

/-- A connective right before a closing bracket. -/
def connectiveBeforeClose : Pattern := fun s =>
  match connectiveAhead? s with
  | some (_, r) =>
    match skipBlanks r with
    | ')' :: rest => some ⟨[')'], rest⟩
    | _ => none
  | none => none

/-- A connective right after an opening bracket. -/
def connectiveAfterOpen : Pattern
  | '(' :: s => (connectiveAhead? s).map fun (_, rest) => ⟨['('], skipBlanks rest⟩
  | _ => none

/-- Two connectives in a row: the second one stays. -/
def doubledConnective : Pattern := fun s =>
  match Connective.read? s with
  | some (_, r) => (connectiveAhead? r).map fun (c, rest) => ⟨c.symbol.toList, rest⟩
  | none => none

/-- A connective with nothing after it. -/
def trailingConnective : Pattern := fun s =>
  match connectiveAhead? s with
  | some (_, r) => if skipBlanks r = [] then some ⟨[], []⟩ else none
  | none => none

def isFieldChar (c : Char) : Bool := isWordChar c || c == '.' || c == ':'

/-- The text behind the field name that it starts with. A field name starts with a letter or an
underscore, perhaps after an at sign, and goes on with word characters, points and colons. -/
def afterField? : List Char → Option (List Char)
  | '@' :: c :: s => if isNameStart c then some (s.dropWhile isFieldChar) else none
  | c :: s => if isNameStart c then some (s.dropWhile isFieldChar) else none
  | [] => none

/-- Does a condition start here: a field name, any blanks and an operator? -/
def startsCondition (s : List Char) : Bool :=
  match afterField? s with
  | some rest => Operator.startsText (skipBlanks rest)
  | none => false

/-- A closing bracket right before a condition. -/
def closeBeforeCondition : Pattern
  | ')' :: s =>
    if startsCondition (skipBlanks s) then some ⟨')' :: Connective.and.spaced.toList, skipBlanks s⟩
    else none
  | _ => none

/-- A connective with whatever blanks surround it. -/
def looseConnective : Pattern := fun s =>
  (connectiveAhead? s).map fun (c, rest) => ⟨c.spaced.toList, skipBlanks rest⟩

/-- A run of blanks. -/
def blankRun : Pattern
  | c :: s => if isBlank c then some ⟨[' '], skipBlanks s⟩ else none
  | [] => none

/-- Drop a connective that stands first. -/
def dropLeadingConnective (s : List Char) : List Char :=
  match connectiveAhead? s with
  | some (_, rest) => skipBlanks rest
  | none => s

/-- Apply every rule once, in order, and trim the ends. -/
def rulePass (s : List Char) : List Char :=
  s |> replaceAll emptyGroup
    |> replaceAll connectiveBeforeClose
    |> replaceAll connectiveAfterOpen
    |> replaceAll doubledConnective
    |> dropLeadingConnective
    |> replaceAll trailingConnective
    |> replaceAll closeBeforeCondition
    |> replaceAll looseConnective
    |> replaceAll blankRun
    |> trim

end RecordFilter.Normal
