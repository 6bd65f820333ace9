import RecordFilter.Console.Action.Escape
import RecordFilter.Console.Action.Expression

/-!
# The grammar of expressions

Reading expressions from tokens. A text is read twice: a first time to find out whether it is an
expression at all, and if not, a second time strictly, to find a message that says more than that.
Each function reads one kind of phrase; where the phrase is not found, its caller may look for
another one, but a failure with a message ends the reading.
-/

namespace RecordFilter.Console.Action

/-- What a reading comes to. -/
inductive Outcome (α : Type)
  | found (value : α) (rest : Tokens)
  | absent
  | failed (message : String)

namespace Outcome

/-- Go on behind what was found. -/
def andThen {α β : Type} (o : Outcome α) (next : α → Tokens → Outcome β) : Outcome β :=
  match o with
  | found a rest => next a rest
  | absent => absent
  | failed m => failed m

/-- Look for something else if nothing was found. -/
def orElse {α : Type} (o : Outcome α) (other : Unit → Outcome α) : Outcome α :=
  match o with
  | absent => other ()
  | o => o

/-- The message, if the reading failed or if it found something and `report` has one for that. -/
def message? {α : Type} (o : Outcome α) (report : α → Tokens → Option String) : Option String :=
  match o with
  | found a rest => report a rest
  | absent => none
  | failed m => some m

end Outcome

open Outcome

/-! ## Single tokens -/

/-- What was found, unless reading cannot go on behind it. -/
def settled {α : Type} (a : α) (rest : Tokens) : Outcome α :=
  match rest with
  | ⟨.stop m, _⟩ :: _ | ⟨.fault m, _⟩ :: _ => .failed m
  | _ => .found a rest

def token (t : Token) (ts : Tokens) : Outcome Unit :=
  match ts with
  | p :: rest => if p.token = t then settled () rest else .absent
  | [] => .absent

def word (w : String) : Tokens → Outcome Unit := token (.name w)

def sign (w : String) : Tokens → Outcome Unit := token (.sign w)

def startsWith (t : Token) (ts : Tokens) : Bool := ts.head?.any (·.token = t)

def startsWithSign (signs : List String) (ts : Tokens) : Bool := signs.any fun w => startsWith (.sign w) ts

def startsWithWord (words : List String) (ts : Tokens) : Bool := words.any fun w => startsWith (.name w) ts

/-- Words that are not names. -/
def reservedWords : List String :=
  ["False", "None", "True", "and", "as", "assert", "async", "await", "break", "class", "continue", "def",
   "del", "elif", "else", "except", "finally", "for", "from", "global", "if", "import", "in", "is",
   "lambda", "nonlocal", "not", "or", "pass", "raise", "return", "try", "while", "with", "yield"]

/-- A name that is not a reserved word. -/
def plainName : Tokens → Outcome String
  | ⟨.name s, _⟩ :: rest => if reservedWords.contains s then .absent else settled s rest
  | _ => .absent

/-- A name in front of an equals sign. -/
def isKeyword (ts : Tokens) : Bool :=
  match plainName ts with
  | .found _ rest => startsWithSign ["="] rest
  | _ => false

/-- The signs of operators with two operands. -/
def operators : List String := ["|", "^", "&", "<<", ">>", "+", "-", "*", "/", "//", "%", "@"]

/-- The operator that the tokens start with. -/
def operator (ts : Tokens) : Outcome String :=
  match ts with
  | ⟨.sign w, _⟩ :: rest => if operators.contains w then settled w rest else .absent
  | _ => .absent

/-- The comparison that the tokens start with. -/
def comparisonSign (ts : Tokens) : Outcome Unit :=
  match ts with
  | ⟨.sign w, _⟩ :: rest =>
    if ["==", "!=", "<=", "<", ">=", ">"].contains w then settled () rest else .absent
  | ⟨.name "in", _⟩ :: rest => settled () rest
  | ⟨.name "not", _⟩ :: rest => (settled () rest).andThen fun _ rest => word "in" rest
  | ⟨.name "is", _⟩ :: rest =>
    (settled () rest).andThen fun _ rest => (word "not" rest).orElse fun _ => .found () rest
  | _ => .absent

/-- The string literals that the tokens start with. -/
def leadingStrings : Tokens → List (StringForm × List Char)
  | ⟨.string form body, _⟩ :: rest => (form, body) :: leadingStrings rest
  | _ => []

/-- String literals next to each other, as one. -/
def strings (ts : Tokens) : Outcome Expr :=
  let parts := leadingStrings ts
  if parts.isEmpty then .absent
  else
    (settled () (ts.drop parts.length)).andThen fun _ rest =>
      match stringsProblem? none parts with
      | some m => .failed m
      | none =>
        if parts.any (·.1.hasFields) then .found (.compound "f-string expression" true) rest
        else .found (.constant "literal") rest

/-- The most digits that a whole number may have. -/
def numberProblem? (digits : Nat) : Option String :=
  if 4300 < digits then
    some (s!"Exceeds the limit (4300 digits) for integer string conversion: value has {digits} digits; " ++
      "use sys.set_int_max_str_digits() to increase the limit - " ++
      "Consider hexadecimal for huge integer literals to avoid decimal conversion limits.")
  else none

/-! ## Messages -/

def forgottenComma : String := "invalid syntax. Perhaps you forgot a comma?"
def assignedName : String := "invalid syntax. Maybe you meant '==' or ':=' instead of '='?"
def unbracketedGenerator : String := "Generator expression must be parenthesized"
def unbracketedTarget : String := "did you forget parentheses around the comprehension target?"
def unpackedComprehension : String := "iterable unpacking cannot be used in comprehension"

/-- Names of statements that need brackets. -/
def isStatementName (s : String) : Bool := s == "print" || s == "exec"

/-- Words with a meaning at the start of a statement. What could be the start of such a word is not
asked for a comma behind it. -/
def statementWords : List String := ["_", "case", "match"]

/-- Do the tokens start with a name that may mean something else in front of another phrase? -/
def isDoubtful : Tokens → Bool
  | ⟨.name s, _⟩ :: rest =>
    !reservedWords.contains s &&
      (statementWords.any (·.startsWith s) || (match rest with | ⟨.string .., _⟩ :: _ => true | _ => false))
  | _ => false

/-- Does a phrase that starts and ends at these places end inside brackets? -/
def endsInside (start stop : Tokens) : Bool :=
  (start.take (start.length - stop.length)).getLast?.any fun p => p.depth != 0

/-- What the arguments of a call were so far. -/
inductive Stage
  | positions
  | keywords
  | unpacked
  deriving DecidableEq, Repr

/-- The message for an argument by position that comes too late. -/
def Stage.lateMessage : Stage → String
  | unpacked => "positional argument follows keyword argument unpacking"
  | _ => "positional argument follows keyword argument"

/-- There has to be an expression behind a star. -/
def loneStar (behind : Outcome Expr) : Outcome Expr :=
  behind.orElse fun _ => .failed "Invalid star expression"

/-! ## Phrases

The first argument bounds the depth of the reading, and the second tells whether it is strict. -/

mutual

/-- An expression that may be a choice between two, or a function without a name. -/
def expression : Nat → Bool → Tokens → Outcome Expr
  | 0, _, _ => .absent
  | n + 1, strict, ts =>
    match disjunction n strict ts with
    | .failed m => .failed m
    | .absent => function n strict ts
    | .found a rest =>
      match (if strict then flaw? n a ts rest else none) with
      | some m => .failed m
      | none => (choice n strict rest).orElse fun _ => .found a rest

/-- What is wrong with an expression that starts with `a`, by what stands behind that. -/
def flaw? : Nat → Expr → Tokens → Tokens → Option String
  | 0, _, _, _ => none
  | n + 1, a, ts, rest =>
    let comma :=
      if isDoubtful ts then none
      else (expression n false rest).message? fun _ stop =>
        match a with
        | .name s => if isStatementName s || !endsInside rest stop then none else some forgottenComma
        | _ => if endsInside rest stop then some forgottenComma else none
    let half := ((word "if" rest).andThen fun _ r => disjunction n true r).message? fun _ r =>
      if startsWithWord ["else"] r || startsWithSign [":"] r then none
      else some "expected 'else' after 'if' expression"
    let statement :=
      match plainName ts with
      | .found s r =>
        let missing := if isStatementName s
          then some s!"Missing parentheses in call to '{s}'. Did you mean {s}(...)?"
          else none
        if startsWithSign ["("] r then none
        else if isDoubtful ts || r.length ≠ rest.length then (items n true r).message? fun _ _ => missing
        else
          (disjunction n false r).message? fun a stop =>
            flaw? n a r stop <|>
              (((sign "," stop).andThen fun _ r => items n true r).message? fun _ _ => none) <|> missing
      | _ => none
    comma <|> half <|> statement

/-- The end of a choice, behind its first part. -/
def choice : Nat → Bool → Tokens → Outcome Expr
  | 0, _, _ => .absent
  | n + 1, strict, ts =>
    (word "if" ts).andThen fun _ r =>
      (disjunction n strict r).andThen fun _ r =>
        (word "else" r).andThen fun _ r =>
          (expression n strict r).andThen fun _ r => .found (.compound "conditional expression" false) r

/-- A function without a name. -/
def function : Nat → Bool → Tokens → Outcome Expr
  | 0, _, _ => .absent
  | n + 1, strict, ts =>
    (word "lambda" ts).andThen fun _ r =>
      ((parameters n strict r).orElse fun _ => wrongParameters n strict r).andThen fun _ r =>
        (sign ":" r).andThen fun _ r =>
          (expression n strict r).andThen fun _ r => .found (.compound "lambda" false) r

/-- The parameters of a function, up to the colon. -/
def parameters : Nat → Bool → Tokens → Outcome Unit
  | 0, _, _ => .absent
  | n + 1, strict, ts =>
    if startsWithSign [":"] ts then .found () ts
    else
      let bare := (sign "*" ts).andThen fun _ r => (plainName r).andThen (fun _ r => .found () r) |>.orElse
        fun _ => .found () r
      let plain := (plainName ts).andThen fun _ r =>
        ((sign "=" r).andThen fun _ r => (expression n strict r).andThen fun _ r => .found () r).orElse
          fun _ => .found () r
      let one := bare.orElse fun _ => (sign "/" ts).orElse fun _ =>
        ((sign "**" ts).andThen fun _ r => (plainName r).andThen fun _ r => .found () r).orElse fun _ => plain
      one.andThen fun _ r =>
        if startsWithSign [":"] r then .found () r
        else (sign "," r).andThen fun _ r => parameters n strict r

/-- Parameters of a function in brackets, or a slash without any in front of it. -/
def wrongParameters : Nat → Bool → Tokens → Outcome Unit
  | 0, _, _ => .absent
  | n + 1, strict, ts =>
    if !strict then .absent
    else
      ((sign "/" ts).andThen fun _ r =>
        (sign "," r).andThen fun _ _ => .failed "at least one argument must precede /").orElse fun _ =>
          ((sign "(" ts).andThen fun _ r => names n r).andThen fun _ r =>
            (sign ")" r).andThen fun _ _ => .failed "Lambda expression parameters cannot be parenthesized"

/-- Names with commas between them. -/
def names : Nat → Tokens → Outcome Unit
  | 0, _ => .absent
  | n + 1, ts =>
    (plainName ts).andThen fun _ r =>
      ((sign "," r).andThen fun _ r => (names n r).orElse fun _ => .found () r).orElse fun _ => .found () r

/-- Expressions with `and` and `or` between them. -/
def disjunction : Nat → Bool → Tokens → Outcome Expr
  | 0, _, _ => .absent
  | n + 1, strict, ts => (inversion n strict ts).andThen (disjunctionFrom n strict)

def disjunctionFrom : Nat → Bool → Expr → Tokens → Outcome Expr
  | 0, _, _, _ => .absent
  | n + 1, strict, a, ts =>
    (((word "and" ts).orElse fun _ => word "or" ts).andThen fun _ r =>
      (inversion n strict r).andThen fun _ r =>
        disjunctionFrom n strict (.compound "expression" false) r).orElse fun _ => .found a ts

/-- A comparison, perhaps denied. -/
def inversion : Nat → Bool → Tokens → Outcome Expr
  | 0, _, _ => .absent
  | n + 1, strict, ts =>
    ((word "not" ts).andThen fun _ r =>
      (inversion n strict r).andThen fun _ r => .found (.compound "expression" false) r).orElse fun _ =>
        (operation n strict ts).andThen (comparisonFrom n strict)

def comparisonFrom : Nat → Bool → Expr → Tokens → Outcome Expr
  | 0, _, _, _ => .absent
  | n + 1, strict, a, ts =>
    ((comparisonSign ts).andThen fun _ r =>
      (operation n strict r).andThen fun _ r =>
        comparisonFrom n strict (.compound "comparison" false) r).orElse fun _ => .found a ts

/-- Operands with operators between them. -/
def operation : Nat → Bool → Tokens → Outcome Expr
  | 0, _, _ => .absent
  | n + 1, strict, ts => (operand n strict ts).andThen (operationFrom n strict true)

def operationFrom : Nat → Bool → Bool → Expr → Tokens → Outcome Expr
  | 0, _, _, _, _ => .absent
  | n + 1, strict, isFirst, a, ts =>
    ((operator ts).andThen fun w r =>
      (operand n strict r).andThen fun b r =>
        let e := if isFirst && (w == "+" || w == "-") then .sum a b else .compound "expression" true
        operationFrom n strict false e r).orElse fun _ => .found a ts

/-- An operand with its signs. -/
def operand : Nat → Bool → Tokens → Outcome Expr
  | 0, _, _ => .absent
  | n + 1, strict, ts =>
    let signed := ((sign "+" ts).orElse fun _ => sign "-" ts).andThen fun _ r =>
      (operand n strict r).andThen fun e r => .found (.signed e) r
    let inverted := (sign "~" ts).andThen fun _ r =>
      (operand n strict r).andThen fun _ r => .found (.compound "expression" true) r
    signed.orElse fun _ => inverted.orElse fun _ =>
      (awaited n strict ts).andThen fun base r =>
        ((sign "**" r).andThen fun _ r =>
          (operand n strict r).andThen fun _ r => .found (.compound "expression" true) r).orElse
            fun _ => .found base r

def awaited : Nat → Bool → Tokens → Outcome Expr
  | 0, _, _ => .absent
  | n + 1, strict, ts =>
    ((word "await" ts).andThen fun _ r =>
      (awaited n strict r).andThen fun _ r => .found (.compound "await expression" true) r).orElse fun _ =>
        (atom n strict ts).andThen (accessFrom n strict)

/-- Attributes and calls behind an expression. -/
def accessFrom : Nat → Bool → Expr → Tokens → Outcome Expr
  | 0, _, _, _ => .absent
  | n + 1, strict, e, ts =>
    let part := (sign "." ts).andThen fun _ r =>
      (plainName r).andThen fun _ r => accessFrom n strict (.compound "attribute" true) r
    let call := (sign "(" ts).andThen fun _ r =>
      (arguments n strict .positions true r).andThen fun isEmpty r =>
        (sign ")" r).andThen fun _ r => accessFrom n strict (.call e isEmpty) r
    part.orElse fun _ => call.orElse fun _ =>
      match (if strict then braceFlaw? n ts else none) with
      | some m => .failed m
      | none => .found e ts

/-- What is wrong with braces that stand where a call might. -/
def braceFlaw? : Nat → Tokens → Option String
  | 0, _ => none
  | n + 1, ts =>
    (sign "\x7b" ts).message? fun _ r =>
      let unpacked := ((sign "*" r).andThen fun _ r =>
        (loneStar (expression n true r)).andThen fun _ r => clauses n true r).message? fun _ _ =>
          some unpackedComprehension
      let target := ((starNamed n true r).andThen fun _ r =>
        (sign "," r).andThen fun _ r =>
          ((starItems n true r).orElse fun _ => .found () r).andThen fun _ r => clauses n true r).message?
            fun _ _ => some unbracketedTarget
      unpacked <|> target

/-- Expressions in brackets, with commas between them. -/
def starItems : Nat → Bool → Tokens → Outcome Unit
  | 0, _, _ => .absent
  | n + 1, strict, ts =>
    (starNamed n strict ts).andThen fun _ r =>
      ((sign "," r).andThen fun _ r => (starItems n strict r).orElse fun _ => .found () r).orElse
        fun _ => .found () r

/-- A name, a single value, or what stands in brackets. -/
def atom : Nat → Bool → Tokens → Outcome Expr
  | 0, _, _ => .absent
  | n + 1, strict, ts =>
    match ts with
    | ⟨.name s, _⟩ :: rest =>
      if ["True", "False", "None"].contains s then settled (.constant s) rest
      else (plainName ts).andThen fun s r => .found (.name s) r
    | ⟨.number isImaginary digits, _⟩ :: rest =>
      match numberProblem? digits with
      | some m => .failed m
      | none => settled (.number isImaginary) rest
    | ⟨.string .., _⟩ :: _ => strings ts
    | ⟨.sign "...", _⟩ :: rest => settled (.constant "ellipsis") rest
    | ⟨.sign "(", _⟩ :: rest => (settled () rest).andThen fun _ r => brackets n strict r
    | ⟨.sign "\x7b", _⟩ :: rest => (settled () rest).andThen fun _ r => braces n strict r
    | _ => .absent

/-- An expression that may name its value, in brackets. -/
def named : Nat → Bool → Tokens → Outcome Expr
  | 0, _, _ => .absent
  | n + 1, strict, ts =>
    match (plainName ts).andThen fun _ r => sign ":=" r with
    | .failed m => .failed m
    | .found _ r =>
      (expression n strict r).andThen fun _ r => .found (.compound "named expression" false) r
    | .absent =>
      (expression n strict ts).andThen fun e r =>
        match (if strict then assignment? n e ts r else none) with
        | some m => .failed m
        | none => if startsWithSign [":="] r then .absent else .found e r

/-- What is wrong with an expression in brackets that something is assigned to. -/
def assignment? : Nat → Expr → Tokens → Tokens → Option String
  | 0, _, _, _ => none
  | n + 1, e, ts, rest =>
    let renamed := ((sign ":=" rest).andThen fun _ r => expression n true r).message? fun _ _ =>
      some s!"cannot use assignment expressions with {e.kind}"
    let isFixed := ["tuple", "generator expression"].contains e.kind || !e.isOperand ||
      startsWithWord ["True", "False", "None"] ts
    let assigned := if isFixed then none else
      ((sign "=" rest).andThen fun _ r => operation n true r).message? fun _ r =>
        if startsWithSign ["=", ":="] r then none
        else if isKeyword ts then some assignedName
        else some s!"cannot assign to {e.kind} here. Maybe you meant '==' instead of '='?"
    renamed <|> assigned

/-- An expression with a star in front of it, or one that may name its value. -/
def starNamed : Nat → Bool → Tokens → Outcome Expr
  | 0, _, _ => .absent
  | n + 1, strict, ts =>
    ((sign "*" ts).andThen fun _ r =>
      (operation n strict r).andThen fun _ r => .found (.compound "starred" true) r).orElse fun _ =>
        named n strict ts

/-- An expression, perhaps with a star in front of it. -/
def starItem : Nat → Bool → Tokens → Outcome Expr
  | 0, _, _ => .absent
  | n + 1, strict, ts =>
    ((sign "*" ts).andThen fun _ r =>
      (operation n strict r).andThen fun _ r => .found (.compound "starred" true) r).orElse fun _ =>
        expression n strict ts

/-- What stands behind an opening bracket: a tuple, a generator, or an expression in brackets. -/
def brackets : Nat → Bool → Tokens → Outcome Expr
  | 0, _, _ => .absent
  | n + 1, strict, ts =>
    let double := if !strict then .absent else
      ((sign "**" ts).andThen fun _ r => expression n strict r).andThen fun _ r =>
        if startsWithSign [")"] r then .failed "cannot use double starred expression here" else .absent
    let yielded := (word "yield" ts).andThen fun _ r =>
      (((word "from" r).andThen fun _ r => expression n strict r).orElse fun _ =>
        (items n strict r).andThen fun _ r => .found (.tuple []) r).orElse (fun _ => .found (.tuple []) r)
        |>.andThen fun _ r => (sign ")" r).andThen fun _ r => .found (.compound "yield expression" true) r
    let starred (_ : Unit) : Outcome Expr := (sign "*" ts).andThen fun _ r =>
      if !strict then .absent
      else
        (loneStar (expression n strict r)).andThen fun _ r =>
          if startsWithSign [")"] r then .failed "cannot use starred expression here"
          else (clauses n strict r).andThen fun _ _ => .failed unpackedComprehension
    ((sign ")" ts).andThen fun _ r => .found (.tuple []) r).orElse fun _ =>
      (double.orElse fun _ => yielded.orElse fun _ =>
        (starNamed n strict ts).andThen fun e r =>
          let tuple := (sign "," r).andThen fun _ r => tupleFrom n strict [e] r
          let group := (sign ")" r).andThen fun _ r => .found e.grouped r
          let generator := (clauses n strict r).andThen fun _ r =>
            (sign ")" r).andThen fun _ r => .found .generator r
          tuple.orElse fun _ =>
            if e.kind == "starred" then .absent else group.orElse fun _ => generator).orElse starred

/-- The rest of a tuple behind a comma; the items so far are in reverse order. -/
def tupleFrom : Nat → Bool → List Expr → Tokens → Outcome Expr
  | 0, _, _, _ => .absent
  | n + 1, strict, done, ts =>
    ((sign ")" ts).andThen fun _ r => .found (.tuple done.reverse) r).orElse fun _ =>
      (starNamed n strict ts).andThen fun e r =>
        ((sign ")" r).andThen fun _ r => .found (.tuple (e :: done).reverse) r).orElse fun _ =>
          (sign "," r).andThen fun _ r => tupleFrom n strict (e :: done) r

/-- Expressions with commas between them. -/
def items : Nat → Bool → Tokens → Outcome (List Expr)
  | 0, _, _ => .absent
  | n + 1, strict, ts =>
    (starItem n strict ts).andThen fun e r =>
      ((sign "," r).andThen fun _ r =>
        ((items n strict r).orElse fun _ => .found [] r).andThen fun es r => .found (e :: es) r).orElse
          fun _ => .found [e] r

/-- What stands behind an opening brace: a mapping, a set, or a comprehension of one. -/
def braces : Nat → Bool → Tokens → Outcome Expr
  | 0, _, _ => .absent
  | n + 1, strict, ts =>
    if startsWithSign ["\x7d"] ts then (sign "\x7d" ts).andThen fun _ r => .found (.mapping []) r
    else if startsWithSign ["**"] ts then entries n strict [] ts
    else
      let starred (_ : Unit) : Outcome Expr := (sign "*" ts).andThen fun _ r =>
        if !strict then .absent
        else
          (loneStar (expression n strict r)).andThen fun _ r =>
            (clauses n strict r).andThen fun _ _ => .failed unpackedComprehension
      ((starNamed n strict ts).andThen fun e r =>
        if startsWithSign [":"] r && !(["starred", "named expression"].contains e.kind) then
          (entryValue n strict r).andThen fun v r => entriesFrom n strict [(some e, v)] r
        else membersFrom n strict [e] r).orElse starred

/-- The value that goes with a key. -/
def entryValue : Nat → Bool → Tokens → Outcome Expr
  | 0, _, _ => .absent
  | n + 1, strict, ts =>
    (sign ":" ts).andThen fun _ r =>
      (expression n strict r).orElse fun _ =>
        match (sign "*" r).andThen fun _ r => operation n strict r with
        | .failed m => .failed m
        | .found _ _ => .failed "cannot use a starred expression in a dictionary value"
        | .absent =>
          if startsWithSign ["\x7d", ","] r then .failed "expression expected after dictionary key and ':'"
          else .absent

/-- The entries of a mapping from some place on; those so far are in reverse order. -/
def entries : Nat → Bool → List (Option Expr × Expr) → Tokens → Outcome Expr
  | 0, _, _, _ => .absent
  | n + 1, strict, done, ts =>
    if startsWithSign ["**"] ts then
      (sign "**" ts).andThen fun _ r =>
        (operation n strict r).andThen fun e r => entriesFrom n strict ((none, e) :: done) r
    else
      (expression n strict ts).andThen fun key r =>
        if startsWithSign [":"] r then
          (entryValue n strict r).andThen fun v r => entriesFrom n strict ((some key, v) :: done) r
        else .failed "':' expected after dictionary key"

/-- The rest of a mapping behind an entry. -/
def entriesFrom : Nat → Bool → List (Option Expr × Expr) → Tokens → Outcome Expr
  | 0, _, _, _ => .absent
  | n + 1, strict, done, ts =>
    let stop (r : Tokens) : Outcome Expr :=
      (sign "\x7d" r).andThen fun _ r => .found (.mapping done.reverse) r
    let more := (sign "," ts).andThen fun _ r => (stop r).orElse fun _ => entries n strict done r
    let comprehension := if done.length ≠ 1 then .absent else
      (clauses n strict ts).andThen fun _ r =>
        (sign "\x7d" r).andThen fun _ r =>
          if done.all (·.1.isSome) then .found (.compound "dict comprehension" true) r
          else if strict then .failed "dict unpacking cannot be used in dict comprehension"
          else .absent
    (stop ts).orElse fun _ => more.orElse fun _ => comprehension

/-- The rest of a set behind a member; the members so far are in reverse order. -/
def membersFrom : Nat → Bool → List Expr → Tokens → Outcome Expr
  | 0, _, _, _ => .absent
  | n + 1, strict, done, ts =>
    let stop (r : Tokens) : Outcome Expr :=
      (sign "\x7d" r).andThen fun _ r => .found (.set done.reverse) r
    let unbracketed (r : Tokens) : Outcome Expr :=
      (clauses n strict r).andThen fun _ _ =>
        if strict then .failed unbracketedTarget else .absent
    let more := (sign "," ts).andThen fun _ r =>
      (stop r).orElse fun _ =>
        ((starNamed n strict r).andThen fun e r => membersFrom n strict (e :: done) r).orElse fun _ =>
          if done.length = 1 then unbracketed r else .absent
    let comprehension :=
      if done.length ≠ 1 then unbracketed ts
      else
        (clauses n strict ts).andThen fun _ r =>
          if done.any (·.kind == "starred") then (if strict then .failed unpackedComprehension else .absent)
          else (sign "\x7d" r).andThen fun _ r => .found (.compound "set comprehension" true) r
    (stop ts).orElse fun _ => more.orElse fun _ => comprehension

/-- What a loop takes its values from, once or more. -/
def clauses : Nat → Bool → Tokens → Outcome Unit
  | 0, _, _ => .absent
  | n + 1, strict, ts =>
    (((word "async" ts).orElse fun _ => .found () ts).andThen fun _ r => word "for" r).andThen fun _ r =>
      (targets n strict r).andThen fun _ r =>
        (word "in" r).andThen fun _ r =>
          (disjunction n strict r).andThen fun _ r =>
            (conditions n strict r).andThen fun _ r => (clauses n strict r).orElse fun _ => .found () r

/-- What a loop assigns to. -/
def targets : Nat → Bool → Tokens → Outcome Unit
  | 0, _, _ => .absent
  | n + 1, strict, ts =>
    (((sign "*" ts).orElse fun _ => .found () ts).andThen fun _ r => operation n strict r).andThen fun e r =>
      if e.isTarget then
        ((sign "," r).andThen fun _ r =>
          if startsWithWord ["in"] r then .found () r else targets n strict r).orElse fun _ => .found () r
      else if strict then
        (items n true ts).andThen fun _ _ => .failed s!"cannot assign to {e.kind}"
      else .absent

/-- Conditions on the values of a loop. -/
def conditions : Nat → Bool → Tokens → Outcome Unit
  | 0, _, _ => .absent
  | n + 1, strict, ts =>
    ((word "if" ts).andThen fun _ r =>
      (disjunction n strict r).andThen fun _ r => conditions n strict r).orElse fun _ => .found () ts

/-- The arguments of a call, up to the closing bracket: are there none? -/
def arguments : Nat → Bool → Stage → Bool → Tokens → Outcome Bool
  | 0, _, _, _, _ => .absent
  | n + 1, strict, stage, isFirst, ts =>
    if startsWithSign [")"] ts then .found isFirst ts
    else
      (argument n strict stage isFirst ts).andThen fun stage r =>
        if startsWithSign [")"] r then .found false r
        else
          let generator := (clauses n strict r).andThen fun _ r =>
            if isFirst && startsWithSign [")"] r then .found false r
            else if strict && (!isFirst || startsWithSign [","] r) then .failed unbracketedGenerator
            else .absent
          generator.orElse fun _ => (sign "," r).andThen fun _ r => arguments n strict stage false r

/-- One argument of a call. -/
def argument : Nat → Bool → Stage → Bool → Tokens → Outcome Stage
  | 0, _, _, _, _ => .absent
  | n + 1, strict, stage, isFirst, ts =>
    let late (r : Tokens) : Outcome Stage :=
      if !strict then .absent
      else
        match clauses n strict r with
        | .failed m => .failed m
        | .found _ _ => .failed unbracketedGenerator
        | .absent => .failed stage.lateMessage
    let starred := (sign "*" ts).andThen fun _ r =>
      (loneStar (expression n strict r)).andThen fun _ r =>
        if stage == .unpacked then
          if strict then .failed "iterable argument unpacking follows keyword argument unpacking" else .absent
        else if isFirst && strict then
          match clauses n strict r with
          | .failed m => .failed m
          | .found _ _ => .failed unpackedComprehension
          | .absent => .found stage r
        else .found stage r
    let unpacked := (sign "**" ts).andThen fun _ r =>
      (expression n strict r).andThen fun _ r => .found .unpacked r
    let keyword := ((plainName ts).andThen fun _ r => sign "=" r).andThen fun _ r =>
      (expression n strict r).andThen fun _ r =>
        let next := if stage == .unpacked then Stage.unpacked else .keywords
        if !strict then .found next r
        else
          match clauses n strict r with
          | .failed m => .failed m
          | .found _ _ => .failed assignedName
          | .absent => .found next r
    let position :=
      match (plainName ts).andThen fun _ r => sign ":=" r with
      | .failed m => .failed m
      | .found _ r =>
        (expression n strict r).andThen fun _ r => if stage == .positions then .found stage r else late r
      | .absent =>
        (expression n strict ts).andThen fun e r =>
          if startsWithSign [":="] r then .absent
          else if startsWithSign ["="] r then
            match strict, e with
            | false, _ => .absent
            | true, .constant kind =>
              if reservedWords.contains kind then .failed s!"cannot assign to {kind}"
              else .failed "expression cannot contain assignment, perhaps you meant \"==\"?"
            | true, _ => .failed "expression cannot contain assignment, perhaps you meant \"==\"?"
          else if stage == .positions then .found stage r
          else late r
    starred.orElse fun _ => unpacked.orElse fun _ => keyword.orElse fun _ =>
      if isKeyword ts then .absent else position

end

/-! ## Whole texts -/

/-- An expression, or a tuple if there are commas between several. Those so far are in reverse
order. -/
def wholeFrom : Nat → Bool → List Expr → Tokens → Outcome Expr
  | 0, _, _, _ => .absent
  | n + 1, strict, done, ts =>
    (expression n strict ts).andThen fun e r =>
      let tuple := Expr.tuple (e :: done).reverse
      ((sign "," r).andThen fun _ r => (wholeFrom n strict (e :: done) r).orElse fun _ => .found tuple r).orElse
        fun _ => .found (if done.isEmpty then e else tuple) r

/-- The depth to which tokens can be nested, with all phrases in between. -/
def readingDepth (ts : Tokens) : Nat := 20 * (ts.length + 5)

/-- Read all tokens. -/
def whole (strict : Bool) (ts : Tokens) : Outcome Expr :=
  (settled () ts).andThen fun _ ts => wholeFrom (readingDepth ts) strict [] ts

/-- The message for text that is no expression. Text that is no token is reported before all else.
-/
def complaint (ts : Tokens) (message : String) : String :=
  (ts.findSome? fun p => match p.token with | .fault m => some m | _ => none).getD message

/-- The message for tokens that make no expression, after a strict reading. -/
def strictComplaint (ts : Tokens) : String :=
  complaint ts (match whole true ts with | .failed m => m | _ => "invalid syntax")

/-- The expression that a text writes, or why it writes none. -/
def readExpression (s : List Char) : Except String Expr :=
  let ts := scan s
  match whole false ts with
  | .failed m => .error (complaint ts m)
  | .absent => .error (if startsWith .indent ts then "unexpected indent" else strictComplaint ts)
  | .found e rest =>
    match rest.dropWhile (·.token = .newline) with
    | ⟨.finish, _⟩ :: _ => .ok e
    | ⟨.indent, _⟩ :: _ => .error "unexpected indent"
    | _ => .error (strictComplaint ts)

end RecordFilter.Console.Action
