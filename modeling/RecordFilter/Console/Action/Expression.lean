/-!
# Expressions

What the arguments of an action are made of, as far as their value or a message about them depends
on it. Only literal values are allowed in the end: numbers, a number with an imaginary part added to
it, strings, the fixed values, and tuples, sets and mappings of such. The members of a set and the
keys of a mapping must not be sets or mappings themselves, nor contain any.
-/

namespace RecordFilter.Console.Action

inductive Expr
  | name (s : String)
  | number (isImaginary : Bool)
  | constant (kind : String)
  | tuple (items : List Expr)
  | set (items : List Expr)
  | mapping (entries : List (Option Expr × Expr))
  | signed (e : Expr)
  | sum (left right : Expr)
  | call (function : Expr) (isEmpty : Bool)
  /-- Anything else, which is never a literal value. Operands need no brackets next to an operator.
  -/
  | compound (kind : String) (isOperand : Bool)
  deriving Inhabited

namespace Expr

/-- What a message calls the expression. -/
def kind : Expr → String
  | name _ => "name"
  | number _ => "literal"
  | constant kind => kind
  | tuple _ => "tuple"
  | set _ => "set display"
  | mapping _ => "dict literal"
  | signed _ | sum .. => "expression"
  | call .. => "function call"
  | compound kind _ => kind

def isOperand : Expr → Bool
  | compound _ operand => operand
  | _ => true

/-- The expression in brackets. -/
def grouped : Expr → Expr
  | compound kind _ => compound kind true
  | e => e

/-- Can a loop assign to the expression? -/
def isTarget : Expr → Bool
  | name _ | tuple _ => true
  | compound "attribute" _ => true
  | _ => false

def generator : Expr := compound "generator expression" true

end Expr

/-- Why an expression has no literal value. -/
inductive ValueProblem
  | notLiteral
  | missingKey
  | unhashable (kind : String)
  deriving DecidableEq, Repr

def ValueProblem.message : ValueProblem → String
  | notLiteral => "malformed node or string"
  | missingKey => "malformed node or string: None"
  | unhashable kind => s!"unhashable type: '{kind}'"

namespace Expr

/-- Is this a number without or with a sign? -/
def isNumber : Expr → Bool
  | number _ => true
  | signed (number _) => true
  | _ => false

/-- Is the sum a number with an imaginary part? -/
def isComplex : Expr → Expr → Bool
  | number false, number true | signed (number false), number true => true
  | _, _ => false

mutual

/-- Read a literal value: what in it keeps it out of sets, if there is something. -/
def read : Expr → Except ValueProblem (Option String)
  | number _ | constant _ => .ok none
  | signed e => if isNumber (.signed e) then .ok none else .error .notLiteral
  | sum l r => if isComplex l r then .ok none else .error .notLiteral
  | tuple items => readItems items
  | set items => do
    readMembers items
    return some "set"
  | mapping entries => do
    readEntries entries
    return some "dict"
  | call (name "set") true => .ok (some "set")
  | _ => .error .notLiteral

/-- What keeps one of the items out of sets. -/
def readItems : List Expr → Except ValueProblem (Option String)
  | [] => .ok none
  | e :: items => do
    let first ← read e
    let rest ← readItems items
    return first <|> rest

/-- All members must be allowed in sets. -/
def readMembers : List Expr → Except ValueProblem Unit
  | [] => .ok ()
  | e :: items => do
    if let some kind ← read e then throw (.unhashable kind)
    readMembers items

/-- All keys must be allowed in sets. -/
def readEntries : List (Option Expr × Expr) → Except ValueProblem Unit
  | [] => .ok ()
  | (none, _) :: _ => .error .missingKey
  | (some key, value) :: entries => do
    let kind ← read key
    discard (read value)
    if let some kind := kind then throw (.unhashable kind)
    readEntries entries

end

end Expr

end RecordFilter.Console.Action
