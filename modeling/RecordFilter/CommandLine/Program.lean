import RecordFilter.CommandLine.Command
import RecordFilter.CommandLine.Surroundings

/-!
# The program

The arguments name a command, with options in front of the name and behind it. The options in front
are read first; then the command is looked up, the log file opened, and the command's own arguments
read. Each of these steps may dismiss the run. What is left is a plan, whose task is run and writes
to the log. Its outcome is shown as a report. If the report cannot be written, that is a failure
like those of the task, and is reported in turn; but a failure that cannot be reported breaks the
run down, and so does a log file that cannot be closed at the end.
-/

namespace RecordFilter.CommandLine

/-- What a run is about to do. -/
structure Plan where
  settings : Settings
  logFile : Option Path
  command : Command
  task : Task

/-- The command with this name. The arguments that start with an unknown name are read once more as
options in front of a command, so a mistake among them is reported before the name is. -/
def findCommand (files : FileSystem) (name : String) (rest : List String) :
    Except Dismissal Command :=
  match Command.ofName? name with
  | some command => .ok command
  | none =>
    match readGlobal files (name :: rest) with
    | .error d => .error d
    | .ok _ => .error (.misused programManual (.noSuchCommand name))

/-- Read the arguments, and open the log file. A run that is dismissed may have opened it too. -/
def plan (inv : Invocation) : Except (Dismissal × Option Path) Plan := do
  let a ← (readGlobal inv.files inv.arguments).mapError (·, none)
  match a.operands with
  | [] => throw (.told (.manual programManual), none)
  | name :: rest =>
    let command ← (findCommand inv.files name rest).mapError (·, none)
    let logFile ← (openLog inv a).mapError fun b => (.broken b, none)
    let task ← (command.read rest).mapError (·, logFile)
    return ⟨.ofArguments a, logFile, command, task⟩

/-! ## What is shown -/

/-- Markup that cannot be shown is an error that nobody expected. -/
def markupFailure (problem : Console.MarkupProblem) : Failure :=
  .unexpected problem.kind [.text problem.message]

namespace Plan

def doneReport (p : Plan) (d : Done) : Report := ⟨true, p.command.name, d.data, d.warnings, none⟩

/-- The warnings of a task that was done are kept when its result cannot be shown. -/
def failureReport (p : Plan) (f : Failure) (warnings : List String) : Report :=
  ⟨false, p.command.name, .null, warnings, some f.report⟩

/-- A report is printed without its warnings first. -/
def reportSteps (p : Plan) (console : Except Failure Nat) (r : Report) : List Step :=
  match console with
  | .error cause => [.error cause]
  | .ok width =>
    match r.prints width p.settings.detail with
    | .error problem => [.error (markupFailure problem)]
    | .ok pieces => pieces.map .ok

/-- The warnings have a console of their own, which is made if there are any to be seen. -/
def warningSteps (p : Plan) (console : Except Failure Nat) (r : Report) : List Step :=
  if p.settings.detail.quiet || r.warnings.isEmpty then []
  else
    match console with
    | .error cause => [.error cause]
    | .ok width => (Report.warningPrints width r.warnings).map .ok

/-- The steps of showing a report. A text may take the place of a result, but not of its warnings;
`elapsed` is how long the task took, in milliseconds. -/
def showSteps (p : Plan) (console : Except Failure Nat) (elapsed : Nat) (r : Report)
    (text : Option String) : List Step :=
  if p.settings.json then [.ok ⟨.stdout, r.json elapsed, false⟩]
  else
    (match text with
      | some text => [.ok ⟨.stdout, text ++ "\n", false⟩]
      | none => p.reportSteps console r) ++ p.warningSteps console r

def doneSteps (p : Plan) (console : Except Failure Nat) (elapsed : Nat) (d : Done) : List Step :=
  p.showSteps console elapsed (p.doneReport d) d.text

def failureSteps (p : Plan) (console : Except Failure Nat) (elapsed : Nat) (f : Failure)
    (warnings : List String) : List Step :=
  p.showSteps console elapsed (p.failureReport f warnings) none

end Plan

/-! ## How a run ends -/

/-- An exit code, and what has broken the run down. -/
structure Exit where
  code : Nat
  breakdown : Option Breakdown
  deriving DecidableEq, Repr

/-- The exit with a code of its own, unless something has broken the run down. -/
def Exit.of (code : Nat) (breakdown : Option Breakdown) : Exit :=
  ⟨if breakdown.isNone then code else 1, breakdown⟩

/-- What breaks a run down that is left by an error. -/
def Failure.breakdown (f : Failure) : Breakdown :=
  if f.isBrokenPipe then .brokenPipe else .unreported f.text

def Stop.breakdown : Stop → Breakdown
  | failed cause => cause.breakdown
  | silenced => .brokenPipe

namespace Surroundings

variable (w : Surroundings)

/-- A console, by the cells across it. -/
def console (width : Nat) : Except Failure Nat :=
  match w.noConsole? with
  | some cause => .error cause
  | none => .ok width

/-- A log file that cannot be closed breaks the run down, however it was to end. -/
def close (l : Logger) (s : Progress) (e : Exit) : Exit :=
  match w.closing? l s with
  | some cause => .of 1 cause.breakdown
  | none => e

/-- At the end of the program the streams are written out. -/
def flush (out : Output) (e : Exit) : Exit :=
  if w.loses out && e.breakdown != some .brokenPipe then
    ⟨120, e.breakdown.or (some .unflushed)⟩
  else e

/-- The result of a run in which a log file may have been kept. -/
def result (logFile : Option Path) (s : Progress) (e : Exit) : Result :=
  let e := w.flush s.output e
  ⟨e.code, s.output, e.breakdown, logFile.map fun path => ⟨path, s.keptIn path⟩⟩

end Surroundings

namespace Plan

variable (p : Plan) (w : Surroundings) (console : Except Failure Nat) (elapsed : Nat)

/-- Report a failure. -/
def reportFailure (f : Failure) (warnings : List String) (out : Output) : Output × Exit :=
  let (out, stop?) := w.perform out (p.failureSteps console elapsed f warnings)
  (out, .of f.exitCode (stop?.map Stop.breakdown))

/-- Show the outcome of the task. A result that cannot be shown is a failure too. -/
def showOutcome (outcome : Except Failure Done) (out : Output) : Output × Exit :=
  match outcome with
  | .error f => p.reportFailure w console elapsed f [] out
  | .ok d =>
    match w.perform out (p.doneSteps console elapsed d) with
    | (out, none) => (out, .of d.exitCode none)
    | (out, some (.failed f)) => p.reportFailure w console elapsed f d.warnings out
    | (out, some .silenced) => (out, .of 1 (some .brokenPipe))

def logger : Logger := .configured p.settings.detail.verbosity p.logFile

/-- The result of a run whose task is done; `width` is the number of cells across the console. -/
def result (width : Nat) (work : Work) : Result :=
  let logged := w.logAll p.logger work.log
  let (output, e) := p.showOutcome w (w.console width) elapsed work.outcome logged.output
  w.result p.logFile { logged with output } (w.close p.logger logged e)

end Plan

/-- The result of a run that is dismissed. A mistake in the arguments is shown when the log has been
closed, and an error that keeps it from being shown leaves the program, whatever it is. -/
def Dismissal.result (w : Surroundings) (layout : Manual → Sheet) (logFile : Option Path) :
    Dismissal → Result
  | .broken b => .broken b
  | .told i =>
    let (output, refusal?) := w.write .empty ⟨.stdout, i.text layout, false⟩
    let s := ⟨output, []⟩
    w.result logFile s
      (w.close (.configured 0 logFile) s (.of 0 (refusal?.map Failure.breakdown)))
  | .misused manual m =>
    match w.closing? (.configured 0 logFile) ⟨.empty, []⟩ with
    | some cause => w.result logFile ⟨.empty, []⟩ (.of 1 cause.breakdown)
    | none =>
      let (output, refusal?) := w.write .empty ⟨.stderr, m.text layout manual, false⟩
      w.result logFile ⟨output, []⟩
        (.of 2 (refusal?.map fun cause => .unreported cause.text))

/-- Run the program. -/
def runIn (w : Surroundings) (inv : Invocation) (input : Input) (elapsed : Nat) : Result :=
  match plan inv with
  | .error (d, logFile) => d.result w inv.layout logFile
  | .ok p => p.result w elapsed inv.width (p.task.run input)

/-- Run the program where nothing is refused. -/
def run (inv : Invocation) (input : Input) (elapsed : Nat) : Result :=
  runIn .reliable inv input elapsed

end RecordFilter.CommandLine
