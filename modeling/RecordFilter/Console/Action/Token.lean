import RecordFilter.Text.Digit
import RecordFilter.Text.Printable
import RecordFilter.Text.Word

/-!
# Tokens of arguments

The arguments of an action are written as literal values: numbers, strings, and tuples, sets and
mappings of them. This module cuts their text into tokens. A character, number, string or bracket
that is wrong by itself is reported here; whether the tokens stand in a sensible order is decided
later.
-/

namespace RecordFilter.Console.Action

open Text

/-- How a string literal is to be read. -/
structure StringForm where
  isBytes : Bool
  isRaw : Bool
  hasFields : Bool
  deriving DecidableEq, Repr

inductive Token
  | name (s : String)
  /-- A number; a whole one in base ten has a count of digits, unless it is zero. -/
  | number (isImaginary : Bool) (digits : Nat)
  | string (form : StringForm) (body : List Char)
  | sign (s : String)
  /-- The end of a line that is not inside brackets. -/
  | newline
  /-- Blanks in front of a further line. -/
  | indent
  | finish
  /-- A place where reading cannot go on; the message counts if reading comes there. -/
  | stop (message : String)
  /-- Text that is no token; the message counts before any other. -/
  | fault (message : String)
  deriving DecidableEq, Repr

/-- A token with the number of brackets that are open behind it. -/
structure Placed where
  token : Token
  depth : Nat
  deriving DecidableEq, Repr

abbrev Tokens := List Placed

/-- A token and the text behind it, or what is wrong with the text. -/
abbrev Scanned := Except String (Token × List Char)

/-! ## Names -/

/-- May a name start with this character, as far as the first look tells? -/
def startsName (c : Char) : Bool := c.isAlpha || c == '_' || 128 ≤ c.toNat

def continuesName (c : Char) : Bool := startsName c || c.isDigit

/-- At least four upper case hexadecimal digits. -/
def codePoint (c : Char) : String :=
  let ds := (Nat.toDigits 16 c.toNat).map Char.toUpper
  String.ofList (List.replicate (4 - ds.length) '0' ++ ds)

def badCharacter (c : Char) : String :=
  if isPrintable c then s!"invalid character '{c}' (U+{codePoint c})"
  else s!"invalid non-printable character U+{codePoint c}"

/-- The first character that a name must not have, if there is one. -/
def misplaced? : List Char → Option Char
  | [] => none
  | c :: s => if isWordChar c && !isDigit c then s.find? (!isWordChar ·) else some c

/-! ## Numbers -/

/-- Does the text start with a word that may follow a number without a blank? Some of the words may
run into a name themselves. -/
def startsWithLink (s : List Char) : Bool :=
  ["if", "in", "is"].any (·.toList.isPrefixOf s) ||
    ["and", "else", "for", "not", "or"].any fun w =>
      w.toList.isPrefixOf s && !((s.drop w.length).head?.any continuesName)

/-- A number must not run into a name in ASCII, but for some short words. -/
def checkEnd (kind : String) (s : List Char) : Except String Unit :=
  if s.head?.any (fun c => c.toNat < 128 && continuesName c) && !startsWithLink s then
    .error s!"invalid {kind} literal"
  else .ok ()

/-- Pass over digits, between which single underscores may stand. The second argument tells whether
a digit must come next. -/
def skipDigits (kind : String) (isDigit : Char → Bool) : Bool → List Char → Except String (List Char)
  | needed, [] => if needed then .error s!"invalid {kind} literal" else .ok []
  | needed, c :: s =>
    if isDigit c then skipDigits kind isDigit false s
    else if c.isDigit then .error s!"invalid digit '{c}' in {kind} literal"
    else if needed then .error s!"invalid {kind} literal"
    else if c == '_' then skipDigits kind isDigit true s
    else .ok (c :: s)

/-- The number in some base whose digits a text starts with, behind the mark of the base. -/
def scanBased (kind : String) (isDigit : Char → Bool) (s : List Char) : Scanned := do
  let digits := match s with
    | '_' :: t => t
    | _ => s
  let rest ← skipDigits kind isDigit true digits
  checkEnd kind rest
  return (.number false 0, rest)

def isHex (c : Char) : Bool := c.isDigit || ('a' ≤ c.toLower && c.toLower ≤ 'f')

def skipDecimals (s : List Char) : Except String (List Char) := skipDigits "decimal" Char.isDigit false s

/-- Pass over a point and the digits behind it. -/
def skipFraction : List Char → Except String (List Char)
  | '.' :: c :: s => if c.isDigit then skipDecimals s else .ok (c :: s)
  | '.' :: s => .ok s
  | s => .ok s

/-- Pass over an exponent. A letter without digits behind it is none. -/
def skipExponent (s : List Char) : Except String (List Char) :=
  match s with
  | e :: c :: t =>
    if e.toLower != 'e' then .ok s
    else if c == '+' || c == '-' then
      match t with
      | d :: t => if d.isDigit then skipDecimals t else .error "invalid decimal literal"
      | [] => .error "invalid decimal literal"
    else if c.isDigit then skipDecimals t
    else .ok s
  | _ => .ok s

/-- Is what stands behind the digits of a number a part of it? -/
def continuesNumber : List Char → Bool
  | c :: _ => c == '.' || c.toLower == 'e' || c.toLower == 'j'
  | [] => false

/-- The number in base ten that a text starts with. Zeros must not stand in front of a whole number
other than zero. -/
def scanDecimal (s : List Char) : Scanned := do
  let behind ← skipDecimals s
  let digits := (s.take (s.length - behind.length)).filter Char.isDigit
  if digits.head? = some '0' ∧ digits.any (· != '0') ∧ !continuesNumber behind then
    throw ("leading zeros in decimal integer literals are not permitted; " ++
      "use an 0o prefix for octal integers")
  let rest ← skipExponent (← skipFraction behind)
  match rest with
  | c :: t =>
    if c.toLower == 'j' then do
      checkEnd "imaginary" t
      return (.number true 0, t)
    else checkEnd "decimal" rest
  | [] => pure ()
  let isWhole := rest.length = behind.length && digits.any (· != '0')
  return (.number false (if isWhole then digits.length else 0), rest)

/-- The number that a text starts with. -/
def scanNumber (s : List Char) : Scanned :=
  match s with
  | '0' :: c :: t =>
    match c.toLower with
    | 'x' => scanBased "hexadecimal" isHex t
    | 'o' => scanBased "octal" (fun d => '0' ≤ d && d ≤ '7') t
    | 'b' => scanBased "binary" (fun d => d == '0' || d == '1') t
    | _ => scanDecimal s
  | _ => scanDecimal s

/-! ## Strings -/

def isQuote (c : Char) : Bool := c == '\'' || c == '"'

/-- The form that letters in front of a quote ask for, if they do. -/
def formOf? (letters : List Char) : Option StringForm :=
  match (String.ofList letters).toLower with
  | "" | "u" => some ⟨false, false, false⟩
  | "b" => some ⟨true, false, false⟩
  | "r" => some ⟨false, true, false⟩
  | "f" => some ⟨false, false, true⟩
  | "br" | "rb" => some ⟨true, true, false⟩
  | "fr" | "rf" => some ⟨false, true, true⟩
  | _ => none

/-- The inside of a string up to its closing quotes, and the text behind them; or, if it is not
closed, the number of line ends in it. The second argument is what was read, last character first.
-/
def stringBody (closing : List Char) : List Char → List Char → Except Nat (List Char × List Char)
  | body, [] => .error (body.count '\n')
  | body, '\\' :: c :: s => stringBody closing (c :: '\\' :: body) s
  | body, c :: s =>
    if closing.isPrefixOf (c :: s) then .ok (body.reverse, (c :: s).drop closing.length)
    else if c == '\n' && closing.length = 1 then .error (body.count '\n')
    else stringBody closing (c :: body) s

/-- The string that a text starts with, behind its letters. -/
def scanString (line : Nat) (form : StringForm) (s : List Char) : Scanned :=
  let quote := s.head?.getD '"'
  let long := [quote, quote, quote]
  let closing := if long.isPrefixOf s then long else [quote]
  match stringBody closing [] (s.drop closing.length) with
  | .ok (body, rest) => .ok (.string form body, rest)
  | .error lines =>
    let kind := if closing.length = 3 then "triple-quoted string" else "string"
    .error s!"unterminated {kind} literal (detected at line {line + lines})"

/-! ## Signs -/

/-- The signs of more than one character, longer ones first. -/
def longSigns : List String :=
  ["...", "**=", "//=", "<<=", ">>=", "**", "//", "<<", ">>", "<=", ">=", "==", "!=", "<>", ":=", "->",
   "+=", "-=", "*=", "/=", "%=", "@=", "&=", "|=", "^="]

/-- The sign that a text starts with. -/
def scanSign (s : List Char) : Token × List Char :=
  match longSigns.find? (·.toList.isPrefixOf s) with
  | some w => (.sign w, s.drop w.length)
  | none => (.sign (String.ofList (s.take 1)), s.drop 1)

/-! ## The whole text -/

/-- Where the scan is: its line, whether the line has tokens yet, and the open brackets with their
lines, innermost first. -/
structure Place where
  line : Nat
  isFresh : Bool
  brackets : List (Char × Nat)
  deriving DecidableEq, Repr

/-- The most brackets that may be open at once. -/
def bracketLimit : Nat := 200

/-- The place behind a token, which may open or close a bracket. -/
def Place.after (p : Place) (token : Token) : Except String Place :=
  let p := { p with isFresh := false }
  let close (open? : Char) (c : Char) : Except String Place :=
    match p.brackets with
    | [] => .error s!"unmatched '{c}'"
    | (o, line) :: rest =>
      if o = open? then .ok { p with brackets := rest }
      else
        let clash := s!"closing parenthesis '{c}' does not match opening parenthesis '{o}'"
        .error (if line = p.line then clash else s!"{clash} on line {line}")
  match token with
  | .sign w =>
    let c := w.toList.headD ' '
    if c == '(' || c == '[' || c == '\x7b' then
      if bracketLimit ≤ p.brackets.length then .error "too many nested parentheses"
      else .ok { p with brackets := (c, p.line) :: p.brackets }
    else if c == ')' then close '(' c
    else if c == ']' then close '[' c
    else if c == '\x7d' then close '\x7b' c
    else .ok p
  | _ => .ok p

/-- The token that stands for the end of the text. -/
def Place.ending (p : Place) : Token :=
  match p.brackets with
  | [] => .finish
  | (c, _) :: _ => .stop s!"'{c}' was never closed"

def isLayout (c : Char) : Bool := c == ' ' || c == '\t' || c == '\x0c'

/-- Does a line with these contents have no tokens? -/
def isEmptyLine : List Char → Bool
  | [] => true
  | c :: _ => c == '\n' || c == '#'

/-- A name, or a string with letters in front of it. -/
def scanName (line : Nat) (s : List Char) : Scanned :=
  let run := s.takeWhile continuesName
  let rest := s.drop run.length
  match formOf? run, rest.head?.filter isQuote with
  | some form, some _ => scanString line form rest
  | _, _ =>
    match (if run.any fun c => 128 ≤ c.toNat then misplaced? run else none) with
    | some c => .error (badCharacter c)
    | none => .ok (.name (String.ofList run), rest)

/-- The token that a text starts with, which is neither a blank nor a line end. -/
def scanToken (line : Nat) (s : List Char) : Scanned :=
  match s with
  | [] => .ok (.finish, [])
  | c :: t =>
    if startsName c then scanName line s
    else if isQuote c then scanString line ⟨false, false, false⟩ s
    else if c.isDigit || (c == '.' && (t.head?.any Char.isDigit)) then scanNumber s
    else if c.toNat < 32 || c.toNat = 127 then .error (badCharacter c)
    else .ok (scanSign s)

/-- The tokens from some place on. The first argument bounds the number of steps. -/
def scanFrom : Nat → Place → List Char → Tokens
  | 0, _, _ => []
  | _, p, [] => [⟨p.ending, p.brackets.length⟩]
  | fuel + 1, p, '\\' :: s =>
    match s with
    | '\n' :: t => scanFrom fuel { p with line := p.line + 1 } t
    | _ => [⟨.stop "unexpected character after line continuation character", p.brackets.length⟩]
  | fuel + 1, p, '#' :: s => scanFrom fuel p (s.dropWhile (· != '\n'))
  | fuel + 1, p, '\n' :: s =>
    let next : Place := { p with line := p.line + 1, isFresh := p.brackets.isEmpty || p.isFresh }
    let inner := s.dropWhile isLayout
    let more := scanFrom fuel next s
    let ending := if p.isFresh then [] else [⟨.newline, 0⟩]
    let indent := if inner.length < s.length && !isEmptyLine inner then [⟨.indent, 0⟩] else []
    if p.brackets.isEmpty then ending ++ indent ++ more else more
  | fuel + 1, p, c :: s =>
    if isLayout c then scanFrom fuel p s
    else
      match (do
        let (token, rest) ← scanToken p.line (c :: s)
        let next ← p.after token
        return (token, rest, next)) with
      | .error m => [⟨.fault m, p.brackets.length⟩]
      | .ok (token, rest, next) =>
        let read := (c :: s).take (s.length + 1 - rest.length)
        let next : Place := { next with line := p.line + read.count '\n' }
        ⟨token, next.brackets.length⟩ :: scanFrom fuel next rest

/-- All line ends written as line feeds. -/
def plainLineEnds : List Char → List Char
  | '\r' :: '\n' :: s => '\n' :: plainLineEnds s
  | '\r' :: s => '\n' :: plainLineEnds s
  | c :: s => c :: plainLineEnds s
  | [] => []

/-- The tokens of a text, the last of which is its end. -/
def scan (s : List Char) : Tokens :=
  if s.contains '\x00' then [⟨.fault "source code string cannot contain null bytes", 0⟩]
  else
    let s := plainLineEnds s
    scanFrom (s.length + 1) ⟨1, true, []⟩ s

end RecordFilter.Console.Action
