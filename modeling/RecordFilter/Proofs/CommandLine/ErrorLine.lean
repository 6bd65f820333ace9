import RecordFilter.Proofs.CommandLine.Ending
import RecordFilter.Proofs.CommandLine.Reading
import RecordFilter.Proofs.CommandLine.RoundTrip
import RecordFilter.Proofs.Console.Line

/-!
# The line that tells of an error

What is shown of an error starts with a line that holds its title and its message. The message is
meant to be read as it is, so nothing in it is taken for markup. But the codes of pictures are still
replaced, and blanks at the end of a long line are dropped: the message arrives as it is exactly if
neither happens.

## Main statements

* `startsWithLine_errorTexts_iff`: when what is shown of an error starts with its heading.
* `error_line_verbatim_iff`: the errors that are shown as they are, in reports and by the command
  that writes conditions.
* `not_forall_error_line_verbatim`: a message that names a picture.
-/

namespace RecordFilter.CommandLine

open Console

/-! ## The heading -/

/-- The title and the message of an error. -/
def ErrorReport.heading (e : ErrorReport) : String := errorTitle e.kind ++ ": " ++ e.message

/-- The text starts with this line. -/
def StartsWithLine (line text : String) : Prop := ∃ rest, text = line ++ "\n" ++ rest

theorem errorTitle_mem (kind : String) :
    errorTitle kind ∈ ["Usage error", "I/O error", "Internal error", "Error"] := by
  unfold errorTitle
  split <;> simp

/-- There is neither a colon nor a control in a title. -/
theorem errorTitle_clean (kind : String) :
    ':' ∉ (errorTitle kind).toList ∧ NoControl (errorTitle kind).toList := by
  have hall : ∀ title ∈ ["Usage error", "I/O error", "Internal error", "Error"],
      ':' ∉ title.toList ∧ NoControl title.toList := by decide +kernel
  exact hall _ (errorTitle_mem kind)

/-- A text starts with a line if what stands in front of its first line feed is that line. -/
theorem startsWithLine_iff {line text : String} {first more : List Char}
    (htext : text.toList = first ++ '\n' :: more) (hline : '\n' ∉ line.toList)
    (hfirst : '\n' ∉ first) : StartsWithLine line text ↔ first = line.toList := by
  constructor
  · rintro ⟨rest, rfl⟩
    have heq : first ++ '\n' :: more = line.toList ++ '\n' :: rest.toList := by
      simpa using htext.symm
    have hin : ∀ {l : List Char}, '\n' ∉ l → ∀ c ∈ l, (c != '\n') = true := fun hl c hc => by
      simpa using ne_of_mem_of_not_mem hc hl
    exact (Text.run_append_inj (hin hfirst) (hin hline) rfl rfl heq).1
  · rintro rfl
    refine ⟨String.ofList more, String.toList_injective ?_⟩
    simp [htext]

/-- The report of an error starts with the line of its heading, and more may follow. -/
theorem exists_errorTexts (width : Nat) (command : String) (detail : Report.Detail)
    (e : ErrorReport) :
    ∃ more, Report.errorTexts width command detail e = printed width e.heading :: more :=
  ⟨_, rfl⟩

/-- On a console without cells nothing is shown of it. -/
theorem join_errorTexts_zero (command : String) (detail : Report.Detail) (e : ErrorReport) :
    String.join (Report.errorTexts 0 command detail e) = "" := by
  have hprinted : ∀ s, printed 0 s = "" := fun _ => rfl
  have hnested : ∀ v, showNested 0 v = "" := fun _ => rfl
  simp only [Report.errorTexts, hprinted, hnested]
  cases Report.hintText command e <;> cases e.details with
  | none => cases detail.quiet <;> rfl
  | some entries =>
    cases entries <;> cases detail.quiet <;> by_cases h : 1 ≤ detail.verbosity <;>
      simp [h, hprinted, String.join]

/-- What is shown of an error starts with its heading exactly if nothing in the message is replaced
and nothing is dropped at the end of the line. -/
theorem startsWithLine_errorTexts_iff {e : ErrorReport} (hcontrol : NoControl e.message.toList)
    (width : Nat) (command : String) (detail : Report.Detail) :
    StartsWithLine e.heading (String.join (Report.errorTexts width command detail e)) ↔
      Plain e.message.toList ∧ Fits width e.heading.toList := by
  cases width with
  | zero =>
    rw [join_errorTexts_zero]
    constructor
    · rintro ⟨rest, hrest⟩
      have hin : '\n' ∈ "".toList := by simp [hrest]
      cases hin
    · rintro ⟨-, hwidth, -⟩
      exact absurd hwidth (Nat.lt_irrefl 0)
  | succ n =>
    obtain ⟨hcolon, htitle⟩ := errorTitle_clean e.kind
    have hheading : e.heading.toList =
        (errorTitle e.kind).toList ++ ':' :: ' ' :: e.message.toList := by
      simp [ErrorReport.heading]
    have hall : NoControl ((errorTitle e.kind).toList ++ e.message.toList) :=
      noControl_append.2 ⟨htitle, hcontrol⟩
    obtain ⟨first, hfirst, hfeed, hsame⟩ := exists_line_unbroken hcolon hall n.succ_pos
    obtain ⟨more, hmore⟩ := exists_errorTexts (n + 1) command detail e
    have htext : (String.join (Report.errorTexts (n + 1) command detail e)).toList =
        first ++ '\n' :: (String.join more).toList := by
      rw [hmore, printed, hheading, hfirst]
      simp
    have hline : '\n' ∉ e.heading.toList := by
      intro hmem
      rw [hheading, List.mem_append, List.mem_cons, List.mem_cons] at hmem
      rcases hmem with hmem | hmem | hmem | hmem
      · exact htitle _ hmem (by decide)
      · cases hmem
      · cases hmem
      · exact hcontrol _ hmem (by decide)
    rw [startsWithLine_iff htext hline hfeed, hheading, hsame]

/-- Pieces that are all printed on the second stream. -/
theorem after_map_stderr (out : Output) (texts : List String) :
    out.after (texts.map fun text => ⟨.stderr, text, true⟩) =
      ⟨out.stdout, out.stderr ++ String.join texts⟩ := by
  induction texts generalizing out with
  | nil => simp [Output.after]
  | cons text texts ih =>
    refine (ih (out.add .stderr text)).trans ?_
    simp [Output.add, String.append_assoc]

/-- A report that failed is shown on the second stream only. -/
theorem render_of_error {r : Report} {e : ErrorReport} (hfailed : r.ok = false)
    (herror : r.error = some e) (width : Nat) (detail : Report.Detail) :
    r.render width detail =
      .ok ⟨"", String.join (Report.errorTexts width r.command detail e)⟩ := by
  have hprints : r.prints width detail = .ok ((Report.errorTexts width r.command detail e).map
      fun text => ⟨.stderr, text, true⟩) := by simp [Report.prints, hfailed, herror]
  simp only [Report.render, hprints, bind, Except.bind, pure, Except.pure, after_map_stderr]
  rw [Output.empty, String.empty_append]

/-! ## Conditions that are refused -/

/-- A comparison that fails writes no record. -/
theorem log_compare_of_error {b : Builder} {op : Operator} {field : String} {v : Value}
    {e : FilterError} (h : (b.compare op field v).error = some e) :
    (b.compare op field v).log = [] := by
  unfold Builder.compare at h ⊢
  split
  · rfl
  · next hfield =>
    simp only [hfield] at h
    split
    · rfl
    · next hwrite => simp [hwrite, Outcome.done] at h
    · next hwrite => simp [Outcome.done]

/-- The run is to show people a condition, which is refused because of a mistake of the caller. -/
structure Refuses (inv : Invocation) (input : Input) (p : Plan) (cause : FilterError) : Prop where
  planned : plan inv = .ok p
  table : p.settings.json = false
  condition : ∃ allowed field symbol value, p.task = .condition allowed field symbol value
  outcome : (p.task.run input).outcome = .error (.filter cause)
  mistake : internalName? cause = none

theorem log_of_condition_error {allowed : List String} {field symbol value : String} {f : Failure}
    (h : (writeCondition allowed field symbol value).outcome = .error f) :
    (writeCondition allowed field symbol value).log = [] := by
  unfold writeCondition at h ⊢
  simp only at h ⊢
  split
  · rfl
  · next op hop =>
    rw [hop] at h
    split
    · next hfailed => exact log_compare_of_error hfailed
    · next hnone =>
      simp only [hnone] at h
      cases h

theorem report_of_mistake {cause : FilterError} (h : internalName? cause = none) :
    (Failure.filter cause).report = ⟨"usage_error", cause.message, cause.hint, cause.details⟩ := by
  simp only [Failure.report, h]
  rfl

/-- Of a condition that is refused people are shown the error, and nothing else. -/
theorem Refuses.output {inv : Invocation} {input : Input} {p : Plan} {cause : FilterError}
    (h : Refuses inv input p cause) (elapsed : Nat) :
    (run inv input elapsed).output = ⟨"", String.join (Report.errorTexts inv.width p.command.name
      p.settings.detail (Failure.filter cause).report)⟩ := by
  obtain ⟨allowed, field, symbol, value, htask⟩ := h.condition
  have hlog : (p.task.run input).log = [] := by
    have hfailed := h.outcome
    rw [htask] at hfailed ⊢
    exact log_of_condition_error hfailed
  have hpieces : p.failurePieces inv.width elapsed (.filter cause) [] =
      (Report.errorTexts inv.width p.command.name p.settings.detail
        (Failure.filter cause).report).map fun text => ⟨.stderr, text, true⟩ := by
    simp [Plan.failurePieces, h.table, Report.warningPrints]
  rw [run, runIn_of_planned h.planned]
  simp only [Plan.result_of_error h.outcome, hpieces, after_map_stderr, hlog]
  rw [shownLog, List.filter_nil, List.map_nil, String.join_nil, String.empty_append]

/-- A message without controls is shown as it is, on the first line behind the title of the error,
exactly if nothing in it is replaced and nothing dropped at the end of the line; nothing is replaced
if the message names no picture. So it is on a console of any width with every report that failed,
and with the command that writes conditions if it refuses the field or the operator. -/
theorem error_line_verbatim_iff {e : ErrorReport} (hcontrol : NoControl e.message.toList) :
    (∀ (width : Nat) (r : Report) (detail : Report.Detail), r.ok = false → r.error = some e →
      ∃ stderr, r.render width detail = .ok ⟨"", stderr⟩ ∧
        (StartsWithLine e.heading stderr ↔
          Plain e.message.toList ∧ Fits width e.heading.toList)) ∧
    (∀ (inv : Invocation) (input : Input) (elapsed : Nat) (p : Plan) (cause : FilterError),
      Refuses inv input p cause → (Failure.filter cause).report = e →
        e.heading = "Usage error: " ++ cause.message ∧
        ∃ stderr, (run inv input elapsed).output = ⟨"", stderr⟩ ∧
          (StartsWithLine e.heading stderr ↔
            Plain e.message.toList ∧ Fits inv.width e.heading.toList)) ∧
    (¬ NamesPicture e.message.toList → Plain e.message.toList) := by
  refine ⟨fun width r detail hfailed herror => ?_,
    fun inv input elapsed p cause hrefuses hreport => ?_, plain_of_not_namesPicture hcontrol⟩
  · exact ⟨_, render_of_error hfailed herror width detail,
      startsWithLine_errorTexts_iff hcontrol width _ detail⟩
  · refine ⟨?_, _, hrefuses.output elapsed, ?_⟩
    · have htitle : errorTitle "usage_error" = "Usage error" := by decide +kernel
      rw [← hreport, report_of_mistake hrefuses.mistake, ErrorReport.heading, htitle]
      rfl
    · rw [hreport]
      exact startsWithLine_errorTexts_iff hcontrol _ _ _

/-- Three words that do not look like options are a field, an operator and a value. -/
theorem read_condition {field symbol value : String}
    (h : ∀ word ∈ [field, symbol, value],
      Arguments.isLong word = false ∧ Arguments.isOption word = false) :
    Command.condition.read [field, symbol, value] = .ok (.condition [] field symbol value) := by
  have hread : Arguments.read Command.condition.specs true [field, symbol, value] =
      .ok ⟨[], [field, symbol, value]⟩ := by
    simp only [List.forall_mem_cons] at h
    rw [Arguments.read_mixed_operand h.1.1 h.1.2, Arguments.read_mixed_operand h.2.1.1 h.2.1.2,
      Arguments.read_mixed_operand h.2.2.1.1 h.2.2.1.2]
    rfl
  rw [Command.read, readArguments, hread]
  rfl

/-- An operator that there is not, with brackets and a colon. -/
def bracketsError : FilterError :=
  .unknownOperator (.text "[=:]") "'[=:]'" (Operator.all.map Operator.symbol)

/-- Brackets and a colon are shown as they are. -/
theorem error_line_verbatim_brackets : ∃ p,
    NoControl (Failure.filter bracketsError).report.message.toList ∧
      Refuses (.bare ["condition", "a", "[=:]", "1"]) .terminal p bracketsError ∧
      ∃ rest, (run (.bare ["condition", "a", "[=:]", "1"]) .terminal 7).output =
        ⟨"", "Usage error: Unknown filter operator '[=:]'" ++ "\n" ++ rest⟩ := by
  have hread : Command.condition.read ["a", "[=:]", "1"] =
      .ok (.condition [] "a" "[=:]" "1") := read_condition (by decide +kernel)
  have hlog : openLog (.bare ["condition", "a", "[=:]", "1"])
      ⟨[], Command.condition.name :: ["a", "[=:]", "1"]⟩ = .ok none := rfl
  have hrefuses : Refuses (.bare ["condition", "a", "[=:]", "1"]) .terminal _ bracketsError :=
    ⟨plan_of_name rfl hlog hread, rfl, ⟨_, _, _, _, rfl⟩, rfl, rfl⟩
  have hcontrol : NoControl (Failure.filter bracketsError).report.message.toList := by
    decide +kernel
  have hplain : Plain (Failure.filter bracketsError).report.message.toList ∧
      Fits usualWidth (Failure.filter bracketsError).report.heading.toList := by decide +kernel
  obtain ⟨-, hrun, -⟩ := error_line_verbatim_iff hcontrol
  obtain ⟨hheading, stderr, houtput, hshown⟩ := hrun _ _ 7 _ _ hrefuses rfl
  obtain ⟨rest, rfl⟩ := hshown.2 hplain
  exact ⟨_, hcontrol, hrefuses, rest, by rw [houtput, hheading]; rfl⟩

/-- A caller's mistake, with the name of a picture between colons. -/
def medalError : ErrorReport := ⟨"usage_error", ":1st_place_medal:", none, none⟩

/-- The picture is shown in place of its name. -/
theorem not_forall_error_line_verbatim :
    ¬ ∀ (width : Nat) (r : Report) (e : ErrorReport) (detail : Report.Detail), 0 < width →
      r.ok = false → r.error = some e → NoControl e.message.toList →
        ∃ stderr, r.render width detail = .ok ⟨"", stderr⟩ ∧ StartsWithLine e.heading stderr := by
  intro h
  have hcontrol : NoControl medalError.message.toList := by decide +kernel
  have hpicture : ¬ Plain medalError.message.toList := by decide +kernel
  obtain ⟨stderr, hshown, hfirst⟩ := h usualWidth
    ⟨false, "condition", .null, [], some medalError⟩ medalError ⟨true, 0⟩ (by decide) rfl rfl
    hcontrol
  rw [render_of_error rfl rfl] at hshown
  obtain ⟨-, rfl⟩ := Output.mk.inj (Except.ok.inj hshown)
  exact hpicture ((startsWithLine_errorTexts_iff hcontrol _ _ _).1 hfirst).1

end RecordFilter.CommandLine
