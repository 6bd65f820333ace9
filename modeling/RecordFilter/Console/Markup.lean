import RecordFilter.Console.Action
import RecordFilter.Console.Line
import RecordFilter.Console.Style

/-!
# Console markup

Headings and keys of tables may hold markup: a tag in square brackets opens a style, and a tag that
starts with a slash closes the one that was opened last among those with the same effect. The
console shows no styles here, so the tags only vanish; but a tag that closes nothing is an error. A
backslash in front of a tag makes it ordinary text.
-/

namespace RecordFilter.Console

open Text

/-- What a piece of marked up text is. A position counts characters from the start of the text. -/
inductive MarkupPiece
  | plain (s : List Char)
  | tag (position : Nat) (name : List Char) (parameters : Option (List Char))
  deriving DecidableEq, Repr

/-- Why marked up text cannot be shown. -/
inductive MarkupProblem
  /-- A closing tag names a style that is not open. -/
  | notOpen (position : Nat) (tag : String)
  /-- A closing tag closes whatever is open, but nothing is. -/
  | nothingOpen (position : Nat)
  /-- A style has a number that cannot be read. -/
  | number (p : NumberProblem)
  /-- The tag of an action with parameters that make no sense is closed. -/
  | action (p : ActionProblem)
  deriving DecidableEq, Repr

def MarkupProblem.message : MarkupProblem → String
  | notOpen position tag => s!"closing tag '{tag}' at position {position} doesn't match any open tag"
  | nothingOpen position => s!"closing tag '[/]' at position {position} has nothing to close"
  | number p => p.message
  | action p => p.message

/-- How such an error is called. -/
def MarkupProblem.kind : MarkupProblem → String
  | number _ => "ValueError"
  | _ => "MarkupError"

/-- May a tag start with this character? -/
def startsTag (c : Char) : Bool := ('a' ≤ c && c ≤ 'z') || c == '#' || c == '/' || c == '@'

/-- The inside of the tag that a text starts with, and the text behind it. -/
def readTag? : List Char → Option (List Char × List Char)
  | '[' :: c :: s =>
    if startsTag c then
      let inside := s.takeWhile fun d => d != '[' && d != ']'
      match s.drop inside.length with
      | ']' :: rest => some (c :: inside, rest)
      | _ => none
    else none
  | _ => none

/-- Name and parameters of a tag, which an equals sign separates. -/
def splitTag (inside : List Char) : List Char × Option (List Char) :=
  let name := inside.takeWhile (· != '=')
  match inside.drop name.length with
  | _ :: parameters => (name, some parameters)
  | [] => (name, none)

/-- A text before an opening bracket keeps the bracket but not the backslash in front of it. -/
def unescape : List Char → List Char
  | '\\' :: '[' :: s => '[' :: unescape s
  | c :: s => c :: unescape s
  | [] => []

/-- Cut a text into pieces. The second argument is the plain text being read, last character first,
and the third the position. -/
def markupPieces : Nat → List Char → Nat → List Char → List MarkupPiece
  | 0, plain, _, s => [.plain (plain.reverse ++ s)]
  | _, plain, _, [] => [.plain plain.reverse]
  | fuel + 1, plain, position, c :: s =>
    let slashes := (c :: s).takeWhile (· == '\\')
    match readTag? ((c :: s).drop slashes.length) with
    | none =>
      if slashes.isEmpty then markupPieces fuel (c :: plain) (position + 1) s
      else
        markupPieces fuel (slashes ++ plain) (position + slashes.length) ((c :: s).drop slashes.length)
    | some (inside, rest) =>
      let behind := position + slashes.length + inside.length + 2
      let kept := List.replicate (slashes.length / 2) '\\'
      let more := markupPieces fuel [] behind rest
      if slashes.length % 2 = 1 then
        .plain plain.reverse :: .plain kept :: .plain ('[' :: inside ++ [']']) :: more
      else
        let (name, parameters) := splitTag inside
        .plain plain.reverse :: .plain kept :: .tag (position + slashes.length) name parameters :: more

/-- The tag as it is written. -/
def tagText (name : List Char) (parameters : Option (List Char)) : String :=
  String.ofList ('[' :: name ++ ((parameters.map ('=' :: ·)).getD []) ++ [']'])

/-- A tag that is open, by the key of its style. -/
structure OpenTag where
  key : String
  parameters : Option (List Char)
  deriving DecidableEq, Repr

/-- The text of the style of a tag, which its parameters are a part of. -/
def OpenTag.styleText (t : OpenTag) : List Char :=
  t.key.toList ++ ((t.parameters.map (' ' :: ·)).getD [])

/-- Marked up text that was read. -/
structure Marked where
  text : List Char
  /-- The tags that were opened in it. -/
  tags : List OpenTag
  deriving DecidableEq, Repr

/-- Close a tag. Only now the parameters of an action are read; without any it has no arguments. -/
def OpenTag.close (t : OpenTag) : Except MarkupProblem Unit :=
  match t.parameters with
  | none | some [] => .ok ()
  | some parameters =>
    match (if t.key.startsWith "@" then Action.problem? parameters else none) with
    | some p => .error (.action p)
    | none => .ok ()

/-- Read the pieces of a text. The first argument holds the tags that are open, last one first. -/
def readPieces : List OpenTag → List MarkupPiece → Except MarkupProblem Marked
  | _, [] => .ok ⟨[], []⟩
  | opened, .plain s :: rest => do
    let more ← readPieces opened rest
    return { more with text := dropControls (withPictures (unescape s)) ++ more.text }
  | opened, .tag position name parameters :: rest =>
    match name with
    | '/' :: closed =>
      if (trim closed).isEmpty then
        match opened with
        | [] => .error (.nothingOpen position)
        | tag :: opened => do
          tag.close
          readPieces opened rest
      else do
        let key ← (Style.key (trim closed)).mapError .number
        match opened.find? (·.key = key) with
        | none => throw (.notOpen position (tagText name parameters))
        | some tag => do
          tag.close
          readPieces (opened.eraseP (·.key = key)) rest
    | _ => do
      let tag : OpenTag := ⟨← (Style.key name).mapError .number, parameters⟩
      let more ← readPieces (tag :: opened) rest
      return { more with tags := tag :: more.tags }

/-- Read marked up text. -/
def readMarkup (s : String) : Except MarkupProblem Marked :=
  if s.toList.contains '[' then readPieces [] (markupPieces (s.length + 1) [] 0 s.toList)
  else .ok ⟨dropControls (withPictures s.toList), []⟩

/-- The text as it is shown. Only now the styles of its tags are looked up; what is no style is
passed over. -/
def Marked.shown (m : Marked) : Except MarkupProblem (List Char) :=
  match m.tags.findSome? fun t => match Style.read t.styleText with
    | .error (.number p) => some p
    | _ => none with
  | some p => .error (.number p)
  | none => .ok m.text

end RecordFilter.Console
