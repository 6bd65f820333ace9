import RecordFilter.Proofs.CommandLine.Ending
import RecordFilter.Proofs.CommandLine.LineFeed

/-!
# Fed back

The output of a run that shows a filter can be the input of another run. The filter is in normal
form, and it still is when it arrives, so the other run has nothing to complain about and shows what
it was given.

## Main statements

* `Task.exists_normalize`: a filter that is shown is a normal form.
* `check_accepts_output`: the check accepts what a run has shown.
-/

namespace RecordFilter.CommandLine

open RecordFilter.Normal

theorem read_check : Command.normalize.read ["--check"] = .ok (.normalize true none) := by
  have hlong : Arguments.isLong "--check" = true := by decide +kernel
  have hsplit : Arguments.splitLong "--check" = ("--check", none) := by decide +kernel
  have hfind : Arguments.find? Command.normalize.specs "--check" =
      some ⟨.check, ["--check"], false⟩ := rfl
  have hread : Arguments.read Command.normalize.specs true ["--check"] =
      .ok ⟨[(.check, "")], []⟩ := by
    simp [Arguments.read, hlong, hsplit, hfind]
  rw [Command.read, readArguments, hread]
  rfl

/-! ## Output -/

/-- What arrives of the input is the filter, if there is input. -/
theorem exists_inputFilter_of_readsInput {check : Bool} {text : Option String} {input : Input}
    {raw : String} (h : filterText input text = .ok raw)
    (hreads : (Task.normalize check text).readsInput = true) :
    ∃ s, input = .text s ∧ raw = inputFilter s := by
  have hinput : text = none ∨ text = some "-" := by
    unfold Task.readsInput at hreads
    split at hreads
    · next htask => exact .inl (Task.normalize.inj htask).2
    · next htask => exact .inr (Task.normalize.inj htask).2
    · cases hreads
  cases input with
  | terminal => rcases hinput with rfl | rfl <;> cases h
  | text s => rcases hinput with rfl | rfl <;> exact ⟨s, rfl, (Except.ok.inj h).symm⟩
  | unreadable cause => rcases hinput with rfl | rfl <;> cases h

/-- A filter that a task shows is the normal form of a text, and if the task reads the input, of one
without carriage returns. -/
theorem Task.exists_normalize {task : Task} {input : Input} {d : Done} (htask : task ≠ .operators)
    (h : (task.run input).outcome = .ok d) :
    ∃ raw : String, d.text = some (RecordFilter.normalize raw) ∧
      (task.readsInput = true → '\r' ∉ raw.toList) := by
  cases task with
  | operators => exact absurd rfl htask
  | condition allowed field symbol value =>
    simp only [Task.run, writeCondition] at h
    split at h
    · cases h
    · split at h
      · cases h
      · cases h
        exact ⟨_, rfl, fun hreads => by cases hreads⟩
  | normalize check text =>
    simp only [Task.run] at h
    split at h
    · next raw hraw =>
      cases h
      refine ⟨raw, rfl, fun hreads => ?_⟩
      obtain ⟨s, -, rfl⟩ := exists_inputFilter_of_readsInput hraw hreads
      exact return_not_mem_inputFilter s
    · cases h

/-- What a run comes to that is to show a text. -/
theorem run_of_text {inv : Invocation} {input : Input} {p : Plan} {d : Done} {text : String}
    (hplan : plan inv = .ok p) (hdone : (p.task.run input).outcome = .ok d)
    (htext : d.text = some text) (elapsed : Nat) :
    run inv input elapsed =
      ⟨d.exitCode, Output.after ⟨"", shownLog p.settings.detail.verbosity (p.task.run input).log⟩
        (p.textPieces inv.width elapsed d text), none,
        p.logFile.map fun path => ⟨path, (p.task.run input).log⟩⟩ := by
  rw [run, runIn_of_planned hplan]
  exact Plan.result_of_done hdone (p.doneSteps_of_text inv.width elapsed htext)

/-- Warnings leave the first stream alone. -/
theorem stdout_after_warningPrints (width : Nat) (warnings : List String) (out : Output) :
    (out.after (Report.warningPrints width warnings)).stdout = out.stdout := by
  induction warnings generalizing out with
  | nil => rfl
  | cons text warnings ih => exact ih _

/-- What a run shows that is to show a text. -/
theorem stdout_run {inv : Invocation} {input : Input} {p : Plan} {d : Done} {text : String}
    (hplan : plan inv = .ok p) (htable : p.settings.json = false)
    (hdone : (p.task.run input).outcome = .ok d) (htext : d.text = some text) (elapsed : Nat) :
    (run inv input elapsed).output.stdout = text ++ "\n" := by
  rw [run_of_text hplan hdone htext, Plan.textPieces, if_neg (by simp [htable])]
  dsimp only
  split
  · exact String.empty_append
  · exact (stdout_after_warningPrints _ _ _).trans String.empty_append

/-- Without a request to see more, the console shows warnings only. -/
theorem shownLog_eq_empty {records : List LogRecord} (h : ∀ r ∈ records, r.level ≠ .warning) :
    shownLog 0 records = "" := by
  have hnone : records.filter (wanted 0) = [] := by
    refine List.filter_eq_nil_iff.2 fun r hr => ?_
    have hlevel := h r hr
    unfold wanted
    revert hlevel
    cases r.level <;> decide
  rw [shownLog, hnone]
  rfl

theorem level_of_mem_log_normalizeFilter {check : Bool} {raw : String} {r : LogRecord}
    (h : r ∈ (normalizeFilter check raw).log) : r.level ≠ .warning := by
  rcases List.mem_append.1 h with h | h
  · rw [level_of_mem_normalizeLog h]
    nofun
  · rw [List.mem_singleton.1 h]
    nofun

/-- Checking a filter that is its own normal form shows it, and nothing else. -/
theorem run_check {inv : Invocation} {p : Plan} {text filter : String} (hplan : plan inv = .ok p)
    (hsettings : p.settings = ⟨false, ⟨false, 0⟩⟩) (htask : p.task = .normalize true none)
    (harrived : inputFilter text = filter) (hnormal : normalize filter = filter) (elapsed : Nat) :
    ∃ records, run inv (.text text) elapsed =
      ⟨0, ⟨filter ++ "\n", ""⟩, none, p.logFile.map fun path => ⟨path, records⟩⟩ := by
  have hwork : p.task.run (.text text) = normalizeFilter true filter := by
    simp [htask, Task.run, filterText, harrived]
  have hlog : shownLog 0 (normalizeFilter true filter).log = "" :=
    shownLog_eq_empty fun _ => level_of_mem_log_normalizeFilter
  obtain ⟨data, houtcome⟩ : ∃ data, (normalizeFilter true filter).outcome =
      .ok ⟨data, some filter, [], 0⟩ := by
    simp [normalizeFilter, hnormal]
  rw [← hwork] at houtcome hlog
  refine ⟨(p.task.run (.text text)).log, ?_⟩
  rw [run_of_text hplan houtcome rfl, Plan.textPieces]
  simp [hsettings, hlog, Output.after, Output.add, Report.warningPrints]

/-- If a run shows a filter, then the check of its output succeeds without a warning, as long as the
log of the check can be opened. If the filter came from the input, the check shows the same again.
-/
theorem check_accepts_output {inv inv' : Invocation} {input : Input} {p : Plan} {d : Done}
    {log : Option Path} (hplan : plan inv = .ok p) (htable : p.settings.json = false)
    (htask : p.task ≠ .operators) (hdone : (p.task.run input).outcome = .ok d)
    (hargs : inv'.arguments = ["normalize", "--check"])
    (hlog : openLog inv' ⟨[], ["normalize", "--check"]⟩ = .ok log) (elapsed elapsed' : Nat) :
    ∃ text records, run inv' (.text (run inv input elapsed).output.stdout) elapsed' =
        ⟨0, ⟨text, ""⟩, none, log.map fun path => ⟨path, records⟩⟩ ∧
      (p.task.readsInput = true → text = (run inv input elapsed).output.stdout) := by
  obtain ⟨raw, htext, hraw⟩ := Task.exists_normalize htask hdone
  have htidy := tidy_normalizeChars raw.toList
  have hplan' := plan_of_name (c := .normalize) hargs hlog read_check
  have harrived : inputFilter (RecordFilter.normalize raw ++ "\n") =
      String.ofList (withLineFeeds (normalizeChars raw.toList)) := inputFilter_append_newline htidy
  have hnormal : RecordFilter.normalize
      (String.ofList (withLineFeeds (normalizeChars raw.toList))) =
      String.ofList (withLineFeeds (normalizeChars raw.toList)) := by
    rw [RecordFilter.normalize, String.toList_ofList, normalizeChars_withLineFeeds htidy]
  rw [stdout_run hplan htable hdone htext]
  obtain ⟨records, hrun⟩ := run_check hplan' rfl rfl harrived hnormal elapsed'
  refine ⟨_, records, hrun, fun hreads => ?_⟩
  rw [withLineFeeds_eq_self (return_not_mem_normalizeChars (hraw hreads)), RecordFilter.normalize]

/-- A carriage return in a literal arrives as a line feed, and goes on as one. -/
theorem check_accepts_output_of_return : ∃ text,
    run (.bare ["normalize", "--check"]) (.text (run (.bare ["normalize"])
      (.text "(a=\"x\r\ny \r\" && ())\r\n") 3).output.stdout) 5 = ⟨0, ⟨text, ""⟩, none, none⟩ ∧
    text = (run (.bare ["normalize"]) (.text "(a=\"x\r\ny \r\" && ())\r\n") 3).output.stdout := by
  have hplan : plan (.bare ["normalize"]) = .ok ⟨⟨false, ⟨false, 0⟩⟩, none, .normalize,
    .normalize false none⟩ := plan_of_name (c := .normalize) rfl rfl rfl
  have hdone : ((Task.normalize false none).run (.text "(a=\"x\r\ny \r\" && ())\r\n")).outcome =
    .ok _ := rfl
  have hargs : (Invocation.bare ["normalize", "--check"]).arguments =
    ["normalize", "--check"] := rfl
  obtain ⟨text, records, hrun, hsame⟩ := check_accepts_output hplan rfl nofun hdone hargs rfl 3 5
  exact ⟨text, hrun, hsame rfl⟩

end RecordFilter.CommandLine
