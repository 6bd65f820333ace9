import RecordFilter.Console.Color

/-!
# Styles

A style is written as a row of words: attributes such as `bold`, some of them switched off by a
`not` in front, a colour, a background behind the word `on`, and a link. The order of the words does
not matter but for the last of several colours, so two styles are the same if their standard texts
are.
-/

namespace RecordFilter.Console

open Text

inductive Attribute
  | bold | dim | italic | underline | blink | blink2 | reverse | conceal | strike
  | underline2 | frame | encircle | overline
  deriving DecidableEq, Repr

namespace Attribute

/-- The attributes in the order in which a standard text names them. -/
def all : List Attribute :=
  [bold, dim, italic, underline, blink, blink2, reverse, conceal, strike, underline2, frame, encircle,
   overline]

def name : Attribute → String
  | bold => "bold"
  | dim => "dim"
  | italic => "italic"
  | underline => "underline"
  | blink => "blink"
  | blink2 => "blink2"
  | reverse => "reverse"
  | conceal => "conceal"
  | strike => "strike"
  | underline2 => "underline2"
  | frame => "frame"
  | encircle => "encircle"
  | overline => "overline"

/-- A second, shorter name. -/
def shortName? : Attribute → Option String
  | bold => some "b"
  | dim => some "d"
  | italic => some "i"
  | underline => some "u"
  | reverse => some "r"
  | conceal => some "c"
  | strike => some "s"
  | underline2 => some "uu"
  | overline => some "o"
  | _ => none

/-- The attribute with the given name. -/
def ofName? (s : String) : Option Attribute := all.find? fun a => a.name = s || a.shortName? = some s

end Attribute

/-- What a style says of text. Of two settings of an attribute the last counts. -/
structure Style where
  settings : List (Attribute × Bool)
  color : Option String
  background : Option String
  link : Option String
  deriving DecidableEq, Repr

/-- Why a text is not a style. -/
inductive StyleProblem
  /-- A word is neither an attribute nor a colour, or a word is missing. -/
  | unknown
  | number (p : NumberProblem)
  deriving DecidableEq, Repr

namespace Style

def plain : Style := ⟨[], none, none, none⟩

/-- A word as a colour, in lower case. -/
def readColor (word : List Char) : Except StyleProblem String := do
  let w := lower word
  if ← (isColor w).mapError .number then return String.ofList w else throw .unknown

/-- Add what the words say to a style. -/
def addWords : Style → List (List Char) → Except StyleProblem Style
  | style, [] => .ok style
  | style, word :: rest =>
    let w := String.ofList (lower word)
    match w, rest, Attribute.ofName? w with
    | "on", back :: rest, _ => do addWords { style with background := some (← readColor back) } rest
    | "not", word :: rest, _ =>
      match Attribute.ofName? (String.ofList word) with
      | some a => addWords { style with settings := (a, false) :: style.settings } rest
      | none => .error .unknown
    | "link", url :: rest, _ => addWords { style with link := some (String.ofList url) } rest
    | _, rest, some a => addWords { style with settings := (a, true) :: style.settings } rest
    | _, rest, none => do addWords { style with color := some (← readColor word) } rest
termination_by _ words => words.length

/-- The style that a text writes. -/
def read (s : List Char) : Except StyleProblem Style :=
  if trim s = "none".toList then .ok plain else addWords plain (words s)

/-- The standard text of a style. -/
def text (style : Style) : String :=
  let attributes := Attribute.all.filterMap fun a =>
    (style.settings.lookup a).map fun on => if on then a.name else "not " ++ a.name
  let background := style.background.map ("on " ++ ·)
  let link := style.link.map ("link " ++ ·)
  match attributes ++ style.color.toList ++ background.toList ++ link.toList with
  | [] => "none"
  | parts => " ".intercalate parts

/-- The text by which a style is known, whatever the case and spelling of the given one. Text that
is no style is known by itself, in lower case. -/
def key (s : List Char) : Except NumberProblem String :=
  match read s with
  | .ok style => .ok style.text
  | .error .unknown => .ok (String.ofList (lower (trim s)))
  | .error (.number p) => .error p

end Style

end RecordFilter.Console
