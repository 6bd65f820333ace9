import RecordFilter.CommandLine.Suggestion
import RecordFilter.Text.Quoted

/-!
# Arguments

The arguments of a command are options and operands. An option starts with a hyphen: a long one is a
word behind two hyphens, perhaps with a value behind an equals sign or in the next argument, and
short ones are letters behind a single hyphen, of which several may stand together. Two hyphens on
their own end the options. Options may be mixed with the operands, or must stand before the first of
them.
-/

namespace RecordFilter.CommandLine

open Text (quoted)

/-- An option of a command, with all its spellings. -/
structure OptionSpec (κ : Type) where
  key : κ
  names : List String
  takesValue : Bool

/-- The options of an argument list in order, with their values, and the operands. -/
structure Arguments (κ : Type) where
  options : List (κ × String)
  operands : List String

/-- Why an argument list cannot be read. -/
inductive ArgumentProblem
  | noSuchOption (name : String) (similar : List String)
  | needsValue (name : String)
  | takesNoValue (name : String)
  deriving DecidableEq, Repr

def ArgumentProblem.message : ArgumentProblem → String
  | noSuchOption name [] => "No such option: " ++ name
  | noSuchOption name [one] => "No such option: " ++ name ++ " Did you mean " ++ one ++ "?"
  | noSuchOption name many =>
    "No such option: " ++ name ++ " (Possible options: " ++ ", ".intercalate many ++ ")"
  | needsValue name => "Option " ++ quoted name ++ " requires an argument."
  | takesNoValue name => "Option " ++ quoted name ++ " does not take a value."

namespace Arguments

variable {κ : Type}

def withOption (a : Arguments κ) (key : κ) (value : String) : Arguments κ :=
  { a with options := (key, value) :: a.options }

def withOperand (a : Arguments κ) (operand : String) : Arguments κ :=
  { a with operands := operand :: a.operands }

def isLong (name : String) : Bool := name.startsWith "--"

/-- Does an argument hold options? A hyphen on its own does not. -/
def isOption (arg : String) : Bool := arg.startsWith "-" && arg != "-"

/-- The name of a long option, and the value behind an equals sign. -/
def splitLong (arg : String) : String × Option String :=
  let name := arg.toList.takeWhile (· != '=')
  match arg.toList.drop name.length with
  | _ :: value => (String.ofList name, some (String.ofList value))
  | [] => (String.ofList name, none)

def find? (specs : List (OptionSpec κ)) (name : String) : Option (OptionSpec κ) :=
  specs.find? fun s => s.names.contains name

def noSuchLong (specs : List (OptionSpec κ)) (name : String) : ArgumentProblem :=
  .noSuchOption name (suggestions ((specs.flatMap (·.names)).filter isLong) name)

/-- The short options written together. Short options take no value. -/
def readShort (specs : List (OptionSpec κ)) : List Char → Except ArgumentProblem (List (κ × String))
  | [] => .ok []
  | c :: s =>
    let name := String.ofList ['-', c]
    match find? specs name with
    | none => .error (.noSuchOption name [])
    | some spec => do return (spec.key, "") :: (← readShort specs s)

/-- Read an argument list; `mixed` says that options may follow operands. -/
def read (specs : List (OptionSpec κ)) (mixed : Bool) :
    List String → Except ArgumentProblem (Arguments κ)
  | [] => .ok ⟨[], []⟩
  | arg :: rest =>
    if arg = "--" then .ok ⟨[], rest⟩
    else if isLong arg then
      let (name, value?) := splitLong arg
      match find? specs name, value?, rest with
      | none, _, _ => .error (noSuchLong specs name)
      | some spec, some value, rest =>
        if spec.takesValue then do return (← read specs mixed rest).withOption spec.key value
        else .error (.takesNoValue name)
      | some spec, none, next :: rest' =>
        if spec.takesValue then do return (← read specs mixed rest').withOption spec.key next
        else do return (← read specs mixed (next :: rest')).withOption spec.key ""
      | some spec, none, [] =>
        if spec.takesValue then .error (.needsValue name) else .ok ⟨[(spec.key, "")], []⟩
    else if isOption arg then do
      let short ← readShort specs (arg.toList.drop 1)
      let more ← read specs mixed rest
      return { more with options := short ++ more.options }
    else if mixed then do return (← read specs mixed rest).withOperand arg
    else .ok ⟨[], arg :: rest⟩

variable [DecidableEq κ]

def has (a : Arguments κ) (key : κ) : Bool := a.options.any (·.1 = key)

def count (a : Arguments κ) (key : κ) : Nat := (a.options.filter (·.1 = key)).length

/-- All values of an option, in order. -/
def values (a : Arguments κ) (key : κ) : List String :=
  (a.options.filter (·.1 = key)).map Prod.snd

/-- The value of an option that is given; the last one if it is given more than once. -/
def value? (a : Arguments κ) (key : κ) : Option String := (a.values key).getLast?

end Arguments

end RecordFilter.CommandLine
