import RecordFilter.Error

/-!
# Failures of a command

A command fails with a mistake of the caller, with an error of the operating system, or with an
error that nobody expected. What is reported of a failure is its kind, a message, perhaps a hint and
the data behind the message; the exit code tells mistakes of the caller from the rest.
-/

namespace RecordFilter.CommandLine

/-- What a caller's mistake with a wording of its own is about. -/
inductive Mistake
  | general
  | shape
  | usage
  deriving DecidableEq, Repr

/-- Why a command ended without a result. Errors from outside the library carry a list of values. -/
inductive Failure
  | filter (e : FilterError)
  | mistake (about : Mistake) (message : String) (hint : Option String)
  | system (args : List Value)
  | missingFile (args : List Value)
  | missingKey (args : List Value)
  | unexpected (name : String) (args : List Value)

/-- What is reported of a failure. -/
structure ErrorReport where
  kind : String
  message : String
  hint : Option String
  details : Option (List (String × Value))

/-- The text of a value in a message. -/
def spoken (v : Value) : String := v.plain?.getD ""

/-- The text of a value in a message that shows what kind of value it is. -/
def shown (v : Value) : String := v.quoted?.getD ""

/-- The text of an error that carries some values: the value if there is one, all of them if more.
-/
def argsText : List Value → String
  | [] => ""
  | [v] => spoken v
  | vs => shown (.tuple vs)

/-- A path in a system error, if there is one at this place. -/
def pathAt (args : List Value) (i : Nat) : Option Value :=
  match args[i]? with
  | some .null => none
  | other => other

/-- The numbers of the errors of an operation that would have to wait. -/
def waitNumbers : List Int := [11, 114, 115]

/-- Does an error of an operation that would have to wait say how far the operation came? It does so
by a number in the place of a path. -/
def tellsProgress : List Value → Bool
  | .int number :: _ :: .int _ :: _ | .int number :: _ :: .bool _ :: _ => waitNumbers.contains number
  | _ => false

/-- An error of the operating system carries a number and its wording, and perhaps one path or two.
-/
def systemText (hasProgress : Bool) (args : List Value) : String :=
  match args with
  | number :: wording :: _ =>
    if 5 < args.length then argsText args
    else
      let head := "[Errno " ++ spoken number ++ "] " ++ spoken wording
      match (if hasProgress then none else pathAt args 2), pathAt args 4 with
      | none, _ => head
      | some path, none => head ++ ": " ++ shown path
      | some path, some second => head ++ ": " ++ shown path ++ " -> " ++ shown second
  | _ => argsText args

/-- Why a value cannot say how far an operation came. -/
inductive ProgressProblem
  | notWhole
  | tooLarge
  deriving DecidableEq, Repr

def ProgressProblem.message : ProgressProblem → String
  | notWhole => "'float' object cannot be interpreted as an integer"
  | tooLarge => "cannot fit 'int' into an index-sized integer"

/-- What is wrong with the values of a system error, if they do not make one. -/
def progressProblem? : List Value → Option ProgressProblem
  | .int number :: _ :: progress :: more =>
    if waitNumbers.contains number && more.length ≤ 2 then
      match progress with
      | .float _ => some .notWhole
      | .int n => if -(Nat.pow 2 63 : Nat) ≤ n ∧ n < (Nat.pow 2 63 : Nat) then none else some .tooLarge
      | _ => none
    else none
  | _ => none

/-- The name of an error that is not a mistake of the caller. -/
def internalName? : FilterError → Option String
  | .integerTooLong => some "ValueError"
  | .notIterable _ | .unhashable _ => some "TypeError"
  | _ => none

namespace Failure

/-- The system error that some values make. -/
def ofSystem (args : List Value) : Except ProgressProblem Failure :=
  match progressProblem? args with
  | some p => .error p
  | none => .ok (.system args)

/-- The text of the error itself. -/
def text : Failure → String
  | filter e => e.message
  | mistake _ message _ => message
  | system args => systemText (tellsProgress args) args
  | missingFile args => systemText false args
  | missingKey [v] => shown v
  | missingKey args => argsText args
  | unexpected _ args => argsText args

def internal (name text : String) : ErrorReport := ⟨"internal_error", name ++ ": " ++ text, none, none⟩

def report (f : Failure) : ErrorReport :=
  match f with
  | filter e =>
    match internalName? e with
    | some name => internal name f.text
    | none => ⟨"usage_error", f.text, e.hint, e.details⟩
  | mistake _ message hint => ⟨"usage_error", message, hint, none⟩
  | system _ | missingFile _ => ⟨"io_error", f.text, none, none⟩
  | missingKey _ => internal "KeyError" f.text
  | unexpected name _ => internal name f.text

/-- The number of a system error. One that carries a single value, or too many, has none. -/
def number? : Failure → Option Int
  | system (.int n :: _ :: more) | missingFile (.int n :: _ :: more) =>
    if more.length ≤ 3 then some n else none
  | _ => none

/-- Does nobody read any more what is written? -/
def isBrokenPipe (f : Failure) : Bool := f.number? = some 32

/-- Does a console that has met with the error fall silent for good? It does if nobody reads what it
prints, or if the other side has been shut down. -/
def silencesConsole (f : Failure) : Bool :=
  match f with
  | system _ => f.number? = some 32 || f.number? = some 108
  | _ => false

/-- Two for a mistake of the caller, one for everything else. -/
def exitCode (f : Failure) : Nat := if f.report.kind = "usage_error" then 2 else 1

end Failure

end RecordFilter.CommandLine
