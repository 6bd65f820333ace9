import RecordFilter.Proofs.CommandLine.Ending
import RecordFilter.Proofs.CommandLine.Reading
import RecordFilter.Proofs.CommandLine.RoundTrip

/-!
# Two ways in

A filter that is to be normalized is an argument of the command, or it comes from the input: if the
argument is missing, or is a hyphen. What comes of it does not depend on the way it came, whatever
is asked about how it is shown and whether it is checked.

## Main statements

* `read_normalizeWords`: what the arguments of the command ask for.
* `normalize_either_way`: a filter as an argument and from the input, and what is shown of it.
-/

namespace RecordFilter.CommandLine

open Arguments

/-! ## The arguments of the command -/

/-- The arguments of the command: the check is asked for some times in front of the filter and some
times behind it. -/
def normalizeWords (before : Nat) (filter : Option String) (after : Nat) : List String :=
  List.replicate before "--check" ++ filter.toList ++ List.replicate after "--check"

theorem readsAs_check (n : Nat) : ReadsAs Command.normalize.specs true
    (List.replicate n "--check") (List.replicate n (.check, "")) := by
  have hfind : find? Command.normalize.specs "--check" = some ⟨.check, ["--check"], false⟩ := rfl
  have hone : ReadsAs Command.normalize.specs true ["--check"] [(.check, "")] :=
    readsAs_flag (by decide +kernel) hfind rfl
  simpa [List.flatten_replicate_singleton] using hone.replicate n

/-- A filter that does not look like an option is read as it is. -/
theorem read_normalizeWords {filter : Option String}
    (h : ∀ word ∈ filter, isLong word = false ∧ isOption word = false) (before after : Nat) :
    Command.normalize.read (normalizeWords before filter after) =
      .ok (.normalize (decide (before + after ≠ 0)) filter) := by
  have hbehind : Arguments.read Command.normalize.specs true (List.replicate after "--check") =
      .ok ⟨List.replicate after (.check, ""), []⟩ := by
    have hcheck := readsAs_check after []
    rw [List.append_nil] at hcheck
    simp [hcheck, Arguments.read, Except.map, prepend]
  have hread : Arguments.read Command.normalize.specs true (normalizeWords before filter after) =
      .ok ⟨List.replicate (before + after) (.check, ""), filter.toList⟩ := by
    rw [normalizeWords, List.append_assoc, readsAs_check before]
    cases filter with
    | none => simp [hbehind, Except.map, prepend]
    | some word =>
      obtain ⟨hlong, hoption⟩ := h word rfl
      rw [Option.toList_some, List.singleton_append, read_mixed_operand hlong hoption, hbehind]
      simp [Except.map, prepend, withOperand]
  have hhelp : has ⟨List.replicate (before + after) (.check, ""), filter.toList⟩
      CommandOption.help = false := by
    simp [has]
  have hcheck : has ⟨List.replicate (before + after) (.check, ""), filter.toList⟩
      CommandOption.check = decide (before + after ≠ 0) := by
    simp [has]
  have htask : Command.normalize.task ⟨List.replicate (before + after) (.check, ""),
      filter.toList⟩ = .ok (.normalize (decide (before + after ≠ 0)) filter) := by
    rw [← hcheck]
    cases filter <;> rfl
  rw [Command.read, readArguments, hread]
  simp only [bind, Except.bind, hhelp, htask, Bool.false_eq_true, if_false]
  rfl

/-- A word that does not start with a hyphen is no option, and neither is a hyphen on its own. -/
theorem isOption_eq_false {word : String} (h : word.toList.head? ≠ some '-' ∨ word = "-") :
    isLong word = false ∧ isOption word = false := by
  rcases h with h | rfl
  · have hprefix : ∀ {t : List Char}, '-' :: t <+: word.toList → False := by
      rintro t ⟨u, hu⟩
      exact h (by rw [← hu]; rfl)
    refine ⟨Bool.eq_false_iff.2 fun hlong => ?_, Bool.eq_false_iff.2 fun hoption => ?_⟩
    · rw [isLong, String.startsWith_string_iff] at hlong
      exact hprefix hlong
    · rw [isOption, Bool.and_eq_true, String.startsWith_string_iff] at hoption
      exact hprefix hoption.1
  · decide +kernel

/-! ## What arrives -/

/-- A text without carriage returns that does not end in a line feed arrives as it is. -/
theorem inputFilter_eq_self {text : String} (hreturn : '\r' ∉ text.toList)
    (hfeed : text.toList.getLast? ≠ some '\n') : inputFilter text = text := by
  rw [inputFilter, withLineFeeds_eq_self hreturn]
  have hlast : text.toList.reverse.dropWhile (· = '\n') = text.toList.reverse := by
    rw [← List.head?_reverse] at hfeed
    cases h : text.toList.reverse with
    | nil => rfl
    | cons c s =>
      have hc : c ≠ '\n' := by simpa [h] using hfeed
      simp [hc]
  rw [hlast, List.reverse_reverse, String.ofList_toList]

/-! ## Runs -/

/-- A filter that is an argument is what is normalized. -/
theorem run_normalize_argument {check : Bool} {text : String} (hhyphen : text ≠ "-")
    (input : Input) :
    (Task.normalize check (some text)).run input = normalizeFilter check text := by
  have hfilter : filterText input (some text) = .ok text := by
    rw [filterText]
    exact hhyphen
  rw [Task.run, hfilter]

/-- Without such an argument, what arrives is normalized. -/
theorem run_normalize_input {check : Bool} {text : String} (harrives : inputFilter text = text)
    {filter : Option String} (hfilter : filter ∈ [none, some "-"]) :
    (Task.normalize check filter).run (.text text) = normalizeFilter check text := by
  have hcases : filter = none ∨ filter = some "-" := by simpa using hfilter
  rcases hcases with rfl | rfl <;> simp [Task.run, filterText, harrives]

/-- The result of a run depends on what has been worked out, and not on what the work was called.
-/
theorem run_eq_of_work {inv inv' : Invocation} {input input' : Input} {settings : Settings}
    {opened : Except Breakdown (Option Path)} {c : Command} {task task' : Task}
    (hplan : plan inv = (opened.mapError fun b => (.broken b, none)).map fun log =>
      ⟨settings, log, c, task⟩)
    (hplan' : plan inv' = (opened.mapError fun b => (.broken b, none)).map fun log =>
      ⟨settings, log, c, task'⟩)
    (hwidth : inv.width = inv'.width) (hwork : task.run input = task'.run input')
    (elapsed : Nat) : run inv input elapsed = run inv' input' elapsed := by
  rw [run, run, runIn, runIn, hplan, hplan', hwidth]
  cases opened with
  | error b => rfl
  | ok log =>
    simp only [mapError_ok, Except.map, hwork]
    rfl

/-- Normalizing a filter fails the check exactly if it is not its own normal form. -/
theorem exists_outcome_normalizeFilter (check : Bool) (text : String) :
    ∃ d, (normalizeFilter check text).outcome = .ok d ∧ d.text = some (normalize text) ∧
      d.exitCode = if check = true ∧ isNormalized text = false then 1 else 0 := by
  refine ⟨_, rfl, rfl, ?_⟩
  cases check <;> simp [isNormalized]

/-- The arguments of an invocation that normalizes a filter, behind some words that say how the
report is shown. -/
def normalizing (front : List (List String)) (before : Nat) (filter : Option String)
    (after : Nat) : List String :=
  front.flatten ++ "normalize" :: normalizeWords before filter after

/-- A filter without carriage returns that neither ends in a line feed nor starts with a hyphen is
treated alike whichever way it comes in. If the log that the environment names can be opened, the
exit code is one if the check was asked for and the filter is not its own normal form, and zero
otherwise; and unless JSON is asked for, which the words in front settle, the output is the normal
form on a line. -/
theorem normalize_either_way (inv : Invocation) {front : List (List String)}
    (hfront : ∀ words ∈ front, words ∈ displayWords) (before after : Nat) {text : String}
    (hreturn : '\r' ∉ text.toList) (hfeed : text.toList.getLast? ≠ some '\n')
    (hhyphen : text.toList.head? ≠ some '-') (elapsed : Nat) :
    let called (filter : Option String) := inv.withArguments (normalizing front before filter after)
    (∀ filter ∈ [none, some "-"], ∀ input,
      run (called filter) (.text text) elapsed = run (called (some text)) input elapsed) ∧
    ∀ log, openLog inv ⟨[], []⟩ = .ok log →
      ∃ p, plan (called (some text)) = .ok p ∧ ∀ input,
        let result := run (called (some text)) input elapsed
        result.breakdown = none ∧
        result.exitCode = (if before + after ≠ 0 ∧ isNormalized text = false then 1 else 0) ∧
        (p.settings.json = false ↔ AsksForTable front) ∧
        (p.settings.json = false → result.output.stdout = normalize text ++ "\n") := by
  intro called
  have hread := readsAs_flatten hfront
  have hdisplay := isDisplay_of_mem_map hfront
  have htext : text ≠ "-" := by
    rintro rfl
    exact hhyphen rfl
  have hplan : ∀ filter : Option String,
      (∀ word ∈ filter, isLong word = false ∧ isOption word = false) →
      plan (called filter) = ((openLog inv ⟨[], []⟩).mapError fun b => (.broken b, none)).map
        fun log => ⟨.ofArguments ⟨front.map displayed, []⟩, log, .normalize,
          .normalize (decide (before + after ≠ 0)) filter⟩ := fun filter hfilter =>
    plan_display (c := .normalize) hread hdisplay rfl (read_normalizeWords hfilter before after)
  have hargument := hplan (some text) (by simpa using isOption_eq_false (.inl hhyphen))
  constructor
  · intro filter hfilter input
    have hinput : ∀ word ∈ filter, isLong word = false ∧ isOption word = false := by
      have hcases : filter = none ∨ filter = some "-" := by simpa using hfilter
      rcases hcases with rfl | rfl
      · nofun
      · simpa using isOption_eq_false (.inr rfl)
    refine run_eq_of_work (hplan filter hinput) hargument rfl ?_ elapsed
    rw [run_normalize_input (inputFilter_eq_self hreturn hfeed) hfilter,
      run_normalize_argument htext]
  · intro log hlog
    rw [hlog] at hargument
    obtain ⟨p, hargument, htask, hsettings⟩ : ∃ p, plan (called (some text)) = .ok p ∧
        p.task = .normalize (decide (before + after ≠ 0)) (some text) ∧
        p.settings = .ofArguments ⟨front.map displayed, []⟩ := ⟨_, hargument, rfl, rfl⟩
    refine ⟨p, hargument, fun input => ?_⟩
    obtain ⟨d, hdone, hshown, hcode⟩ :=
      exists_outcome_normalizeFilter (decide (before + after ≠ 0)) text
    rw [← run_normalize_argument htext input, ← htask] at hdone
    have hrun := run_of_text hargument hdone hshown elapsed
    refine ⟨by rw [hrun], ?_, by rw [hsettings, json_eq_false_iff hfront],
      fun htable => stdout_run hargument htable hdone hshown elapsed⟩
    rw [hrun, hcode]
    simp only [decide_eq_true_eq]

/-- A filter with an end of a line in a literal, checked on the way out: in silence as JSON, and as
a table that is asked for behind JSON. -/
theorem normalize_either_way_line_feed :
    (∀ words ∈ [["--json"], ["-q"]], words ∈ displayWords) ∧
      '\r' ∉ "a=\"x\ny\" &&".toList ∧ "a=\"x\ny\" &&".toList.getLast? ≠ some '\n' ∧
      "a=\"x\ny\" &&".toList.head? ≠ some '-' ∧
      run (.bare (normalizing [["--json"], ["-q"]] 0 (some "-") 1)) (.text "a=\"x\ny\" &&") 7 =
        run (.bare (normalizing [["--json"], ["-q"]] 0 (some "a=\"x\ny\" &&") 1)) .terminal 7 ∧
      (run (.bare (normalizing [["--json"], ["-q"]] 0 (some "a=\"x\ny\" &&") 1)) .terminal
        7).exitCode = 1 ∧
      (run (.bare (normalizing [["--output=json"], ["--output", "table"]] 0
        (some "a=\"x\ny\" &&") 1)) .terminal 7).output.stdout =
          normalize "a=\"x\ny\" &&" ++ "\n" := by
  have hfront : ∀ words ∈ [["--json"], ["-q"]], words ∈ displayWords := by decide
  have hfront' : ∀ words ∈ [["--output=json"], ["--output", "table"]], words ∈ displayWords := by
    decide
  have htable : AsksForTable [["--output=json"], ["--output", "table"]] :=
    ⟨by decide, by simp [formWords, tableWords]⟩
  have hreturn : '\r' ∉ "a=\"x\ny\" &&".toList := by decide +kernel
  have hfeed : "a=\"x\ny\" &&".toList.getLast? ≠ some '\n' := by decide +kernel
  have hhyphen : "a=\"x\ny\" &&".toList.head? ≠ some '-' := by decide +kernel
  have hchanges : isNormalized "a=\"x\ny\" &&" = false := by decide +kernel
  obtain ⟨hsame, hcode⟩ := normalize_either_way (.bare []) hfront 0 1 hreturn hfeed hhyphen 7
  obtain ⟨p, -, hresult⟩ := hcode none rfl
  obtain ⟨-, hcode'⟩ := normalize_either_way (.bare []) hfront' 0 1 hreturn hfeed hhyphen 7
  obtain ⟨p', -, hresult'⟩ := hcode' none rfl
  obtain ⟨-, -, hjson, hstdout⟩ := hresult' .terminal
  refine ⟨hfront, hreturn, hfeed, hhyphen, hsame _ (by simp) .terminal, ?_,
    hstdout (hjson.2 htable)⟩
  exact (hresult .terminal).2.1.trans (by simp [hchanges])

end RecordFilter.CommandLine
