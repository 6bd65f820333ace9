import RecordFilter.Proofs.CommandLine.Plan

/-!
# Arguments word by word

Some words are read as the same options whatever stands behind them: a flag, an option together with
its value, short options written together. Words of this kind can be put one behind the other. In
front of a command stand the options that say how its report is shown; they are accepted in every
order and number, and the log file does not depend on them.

## Main statements

* `ReadsAs.append`: options one behind the other.
* `readGlobal_display`: what is read of the words in front of a command.
* `plan_display`: what is planned behind them.
-/

namespace RecordFilter.CommandLine

/-! ## Words and options -/

namespace Arguments

section
variable {κ : Type} {specs : List (OptionSpec κ)} {mixed : Bool}

/-- The argument list with more options in front. -/
def prepend (options : List (κ × String)) (a : Arguments κ) : Arguments κ :=
  { a with options := options ++ a.options }

/-- The words are read as these options, whatever stands behind them. -/
def ReadsAs (specs : List (OptionSpec κ)) (mixed : Bool) (words : List String)
    (options : List (κ × String)) : Prop :=
  ∀ rest, read specs mixed (words ++ rest) = (read specs mixed rest).map (prepend options)

theorem readsAs_nil : ReadsAs specs mixed [] [] := by
  intro rest
  cases h : read specs mixed rest <;> simp [h, Except.map, prepend]

/-- Options one behind the other. -/
theorem ReadsAs.append {words words' : List String} {options options' : List (κ × String)}
    (h : ReadsAs specs mixed words options) (h' : ReadsAs specs mixed words' options') :
    ReadsAs specs mixed (words ++ words') (options ++ options') := by
  intro rest
  rw [List.append_assoc, h, h']
  cases read specs mixed rest <;> simp [Except.map, prepend]

theorem ReadsAs.replicate {words : List String} {options : List (κ × String)}
    (h : ReadsAs specs mixed words options) (n : Nat) :
    ReadsAs specs mixed (List.replicate n words).flatten (List.replicate n options).flatten := by
  induction n with
  | zero => exact readsAs_nil
  | succ n ih => simpa [List.replicate_succ] using h.append ih

/-- The word names a long option and holds no value. -/
def IsLongName (word : String) : Prop :=
  isLong word = true ∧ word ≠ "--" ∧ splitLong word = (word, none)

instance (word : String) : Decidable (IsLongName word) := inferInstanceAs (Decidable (_ ∧ _))

/-- A long option that takes no value. -/
theorem readsAs_flag {name : String} {spec : OptionSpec κ} (hname : IsLongName name)
    (hfind : find? specs name = some spec) (hflag : spec.takesValue = false) :
    ReadsAs specs mixed [name] [(spec.key, "")] := by
  obtain ⟨hlong, hend, hsplit⟩ := hname
  intro rest
  cases rest with
  | nil => simp [read, hlong, hend, hsplit, hfind, hflag, Except.map, prepend]
  | cons next rest =>
    rw [List.singleton_append, read]
    simp only [hend, hlong, hsplit, hfind, hflag, if_false, if_true, Bool.false_eq_true]
    cases read specs mixed (next :: rest) <;> rfl

/-- A long option with its value in the next word. -/
theorem readsAs_value {name : String} {spec : OptionSpec κ} (hname : IsLongName name)
    (hfind : find? specs name = some spec) (hvalue : spec.takesValue = true) (value : String) :
    ReadsAs specs mixed [name, value] [(spec.key, value)] := by
  obtain ⟨hlong, hend, hsplit⟩ := hname
  intro rest
  rw [List.cons_append, read]
  simp only [hend, hlong, hsplit, hfind, hvalue, if_false, if_true, List.singleton_append]
  cases read specs mixed rest <;> rfl

/-- A long option with its value in the same word. -/
theorem readsAs_joined {word name value : String} {spec : OptionSpec κ}
    (hlong : isLong word = true) (hsplit : splitLong word = (name, some value))
    (hfind : find? specs name = some spec) (hvalue : spec.takesValue = true) :
    ReadsAs specs mixed [word] [(spec.key, value)] := by
  have hend : word ≠ "--" := by
    rintro rfl
    revert hsplit
    have hnone : splitLong "--" = ("--", none) := by decide +kernel
    simp [hnone]
  intro rest
  rw [List.singleton_append, read]
  simp only [hend, hlong, hsplit, hfind, hvalue, if_false, if_true]
  cases read specs mixed rest <;> rfl

/-- Short options written together. -/
theorem readsAs_short {word : String} {options : List (κ × String)} (hlong : isLong word = false)
    (hoption : isOption word = true) (hshort : readShort specs (word.toList.drop 1) = .ok options) :
    ReadsAs specs mixed [word] options := by
  intro rest
  have hend : word ≠ "--" := by
    rintro rfl
    revert hlong
    decide +kernel
  rw [List.singleton_append, read]
  simp only [hend, hlong, hoption, hshort, if_false, if_true, Bool.false_eq_true]
  cases read specs mixed rest <;> rfl

/-- Where options may follow operands, a word that is none is an operand. -/
theorem read_mixed_operand {word : String} (hlong : isLong word = false)
    (hoption : isOption word = false) (rest : List String) :
    read specs true (word :: rest) = (read specs true rest).map (withOperand · word) := by
  have hend : word ≠ "--" := by
    rintro rfl
    revert hlong
    decide +kernel
  rw [read]
  simp only [hend, hlong, hoption, if_false, if_true, Bool.false_eq_true]
  cases read specs true rest <;> rfl

end

end Arguments

/-! ## How the report is shown -/

open Arguments

/-- The words for the options that say how a report is shown. -/
def displayWords : List (List String) :=
  [["--json"], ["--output", "table"], ["--output", "json"], ["--output=table"], ["--output=json"],
    ["-q"], ["--quiet"], ["-v"]]

/-- The option says how a report is shown, and its value makes sense. -/
def IsDisplay (option : GlobalOption × String) : Prop :=
  option.1 ∈ [.json, .quiet, .verbose] ∨ option.1 = .output ∧ option.2 ∈ outputForms

instance : DecidablePred IsDisplay := fun _ => inferInstanceAs (Decidable (_ ∨ _))

/-- The option that such words are read as. -/
def displayed : List String → GlobalOption × String
  | ["--json"] => (.json, "")
  | ["--output", form] => (.output, form)
  | ["--output=table"] => (.output, "table")
  | ["--output=json"] => (.output, "json")
  | ["-q"] | ["--quiet"] => (.quiet, "")
  | _ => (.verbose, "")

theorem readsAs_of_mem {words : List String} (h : words ∈ displayWords) :
    ReadsAs GlobalOption.specs false words [displayed words] := by
  have hjson : find? GlobalOption.specs "--json" = some ⟨.json, ["--json"], false⟩ := rfl
  have houtput : find? GlobalOption.specs "--output" = some ⟨.output, ["--output"], true⟩ := rfl
  have hquiet : find? GlobalOption.specs "--quiet" = some ⟨.quiet, ["-q", "--quiet"], false⟩ := rfl
  simp only [displayWords, List.mem_cons, List.not_mem_nil, or_false] at h
  rcases h with rfl | rfl | rfl | rfl | rfl | rfl | rfl | rfl
  · exact readsAs_flag (by decide +kernel) hjson rfl
  · exact readsAs_value (by decide +kernel) houtput rfl "table"
  · exact readsAs_value (by decide +kernel) houtput rfl "json"
  · exact readsAs_joined (by decide +kernel) (by decide +kernel) houtput rfl
  · exact readsAs_joined (by decide +kernel) (by decide +kernel) houtput rfl
  · exact readsAs_short (by decide +kernel) (by decide +kernel) rfl
  · exact readsAs_flag (by decide +kernel) hquiet rfl
  · exact readsAs_short (by decide +kernel) (by decide +kernel) rfl

theorem isDisplay_displayed : ∀ words ∈ displayWords, IsDisplay (displayed words) := by decide

section
variable {front : List (List String)}

/-- Such words in any order and number are read one after the other. -/
theorem readsAs_flatten (h : ∀ words ∈ front, words ∈ displayWords) :
    ReadsAs GlobalOption.specs false front.flatten (front.map displayed) := by
  induction front with
  | nil => exact readsAs_nil
  | cons words front ih =>
    rw [List.forall_mem_cons] at h
    exact (readsAs_of_mem h.1).append (ih h.2)

theorem isDisplay_of_mem_map (h : ∀ words ∈ front, words ∈ displayWords) :
    ∀ option ∈ front.map displayed, IsDisplay option := by
  simpa using fun words hwords => isDisplay_displayed words (h words hwords)

/-- The words that name the table as the form of the report. -/
def tableWords : List (List String) := [["--output", "table"], ["--output=table"]]

/-- The words that name a form. -/
def formWords : List (List String) := tableWords ++ [["--output", "json"], ["--output=json"]]

/-- The words ask for a table: there is no word for JSON alone among them, and if forms are named,
the last is the table. -/
def AsksForTable (front : List (List String)) : Prop :=
  ["--json"] ∉ front ∧ ∀ words ∈ (front.filter (· ∈ formWords)).getLast?, words ∈ tableWords

/-- Whether the report is JSON is settled by these words. -/
theorem json_eq_false_iff (h : ∀ words ∈ front, words ∈ displayWords) (operands : List String) :
    (Settings.ofArguments ⟨front.map displayed, operands⟩).json = false ↔ AsksForTable front := by
  have hjson : ∀ words ∈ displayWords, ((displayed words).1 = .json ↔ words = ["--json"]) := by
    decide
  have hform : ∀ words ∈ displayWords, ((displayed words).1 = .output ↔ words ∈ formWords) := by
    decide
  have htable : ∀ words ∈ formWords, ((displayed words).2 ≠ "json" ↔ words ∈ tableWords) := by
    decide
  have hhas : has ⟨front.map displayed, operands⟩ GlobalOption.json = false ↔
      ["--json"] ∉ front := by
    simp only [has, List.any_map, List.any_eq_false, Function.comp_apply, decide_eq_true_eq]
    constructor
    · intro hnone hmem
      exact hnone _ hmem rfl
    · intro hnone words hwords hkey
      exact hnone ((hjson words (h words hwords)).1 hkey ▸ hwords)
  have hfilter : front.filter (fun words => (displayed words).1 = .output) =
      front.filter (· ∈ formWords) := by
    refine List.filter_congr fun words hwords => ?_
    simp [hform words (h words hwords)]
  have hvalues : values ⟨front.map displayed, operands⟩ GlobalOption.output =
      (front.filter (· ∈ formWords)).map fun words => (displayed words).2 := by
    rw [values, List.filter_map, List.map_map, ← hfilter]
    rfl
  rw [Settings.ofArguments, Bool.or_eq_false_iff, hhas, AsksForTable, value?, hvalues,
    List.getLast?_map, decide_eq_false_iff_not]
  refine and_congr_right fun _ => ?_
  cases hlast : (front.filter (· ∈ formWords)).getLast? with
  | none => simp
  | some words =>
    have hmem : words ∈ formWords := by
      simpa using (List.mem_filter.1 (List.mem_of_getLast? hlast)).2
    simpa using htable words hmem

end

/-! ## In front of a command -/

/-- Words that ask for nothing, and whose values are accepted, are read as their options. -/
theorem readGlobal_readsAs {front : List String} {options : List (GlobalOption × String)}
    (hread : ReadsAs GlobalOption.specs false front options) (files : FileSystem) (c : Command)
    (rest : List String)
    (hinfo : (options.map Prod.fst).findSome? GlobalOption.information? = none)
    (hcheck : ∀ key ∈ options.map Prod.fst,
      checkOption files ⟨options, c.name :: rest⟩ key = .ok ()) :
    readGlobal files (front ++ c.name :: rest) = .ok ⟨options, c.name :: rest⟩ := by
  have hall : Arguments.read GlobalOption.specs false (front ++ c.name :: rest) =
      .ok ⟨options, c.name :: rest⟩ := by
    rw [hread, read_operand _ c.isLong_name c.isOption_name]
    simp [Except.map, prepend]
  have haccept : (options.map Prod.fst).forM (checkOption files ⟨options, c.name :: rest⟩) =
      .ok () := by
    cases h : (options.map Prod.fst).forM (checkOption files ⟨options, c.name :: rest⟩) with
    | ok u => rfl
    | error r =>
      obtain ⟨before, key, after, hgiven, -, hfail⟩ := exists_of_forM_eq_error h
      rw [hcheck key (by simp [hgiven])] at hfail
      cases hfail
  rw [readGlobal_of_read hall hinfo, haccept]
  rfl

/-- The same invocation with other arguments. -/
def Invocation.withArguments (inv : Invocation) (arguments : List String) : Invocation :=
  { inv with arguments := arguments }

section
variable {options : List (GlobalOption × String)} {operands : List String}

/-- They ask for no information. -/
theorem findSome?_information_of_display (h : ∀ option ∈ options, IsDisplay option) :
    (options.map Prod.fst).findSome? GlobalOption.information? = none := by
  rw [List.findSome?_eq_none_iff]
  intro key hkey
  obtain ⟨option, hoption, rfl⟩ := List.mem_map.1 hkey
  rcases h option hoption with hmem | ⟨houtput, -⟩
  · revert hmem
    cases option.1 <;> decide
  · rw [houtput]
    rfl

/-- The last form that is asked for is one that there is. -/
theorem mem_outputForms_of_display (h : ∀ option ∈ options, IsDisplay option)
    (hgiven : .output ∈ options.map Prod.fst) :
    ∃ form ∈ outputForms, value? ⟨options, operands⟩ GlobalOption.output = some form := by
  obtain ⟨⟨key, value⟩, hoption, rfl⟩ := List.mem_map.1 hgiven
  have hvalues : value ∈ values ⟨options, operands⟩ GlobalOption.output :=
    List.mem_map.2 ⟨(.output, value), by simpa using hoption, rfl⟩
  have hlast := List.getLast?_eq_some_getLast (List.ne_nil_of_mem hvalues)
  obtain ⟨⟨key, form⟩, hform, hself⟩ :=
    List.mem_map.1 (List.getLast_mem (List.ne_nil_of_mem hvalues))
  obtain ⟨hform, hkey⟩ : (key, form) ∈ options ∧ key = .output := by simpa using hform
  rcases h _ hform with hmem | ⟨-, hmem⟩
  · simp [hkey] at hmem
  · exact ⟨form, hmem, hlast.trans (congrArg some hself.symm)⟩

/-- Their values are accepted. -/
theorem checkOption_of_display (h : ∀ option ∈ options, IsDisplay option) (files : FileSystem)
    {key : GlobalOption} (hkey : key ∈ options.map Prod.fst) :
    checkOption files ⟨options, operands⟩ key = .ok () := by
  obtain ⟨option, hoption, rfl⟩ := List.mem_map.1 hkey
  rcases h option hoption with hmem | ⟨houtput, -⟩
  · revert hmem
    cases option.1 <;> simp [checkOption]
  · rw [houtput] at hkey ⊢
    obtain ⟨form, hform, hvalue⟩ : ∃ form ∈ outputForms,
        value? ⟨options, operands⟩ GlobalOption.output = some form :=
      mem_outputForms_of_display h hkey
    simp [checkOption, hvalue, hform]

/-- Nothing is said of the log file. -/
theorem openLog_of_display (h : ∀ option ∈ options, IsDisplay option) (inv : Invocation) :
    openLog inv ⟨options, operands⟩ = openLog inv ⟨[], []⟩ := by
  have hother : ∀ key ∈ [GlobalOption.logFile, .noLogFile], ∀ option ∈ options, option.1 ≠ key := by
    rintro key hkey option hoption rfl
    rcases h option hoption with hmem | ⟨houtput, -⟩
    · revert hkey hmem
      cases option.1 <;> decide
    · rw [houtput] at hkey
      exact absurd hkey (by decide)
  have hvalue : value? ⟨options, operands⟩ GlobalOption.logFile = none := by
    have hnone : options.filter (·.1 = .logFile) = [] := by
      simpa using hother .logFile (by decide)
    simp [value?, values, hnone]
  have hhas : has ⟨options, operands⟩ GlobalOption.noLogFile = false := by
    simpa [has] using hother .noLogFile (by decide)
  rw [openLog, openLog, namedLogFile, hvalue, hhas]
  rfl

/-- The words in front of a command are read as their options. -/
theorem readGlobal_display {front : List String}
    (hread : ReadsAs GlobalOption.specs false front options)
    (hdisplay : ∀ option ∈ options, IsDisplay option) (files : FileSystem) (c : Command)
    (rest : List String) :
    readGlobal files (front ++ c.name :: rest) = .ok ⟨options, c.name :: rest⟩ :=
  readGlobal_readsAs hread files c rest (findSome?_information_of_display hdisplay)
    fun _ hkey => checkOption_of_display hdisplay files hkey

/-- What is planned of a command behind such words. -/
theorem plan_display {inv : Invocation} {front rest : List String} {c : Command} {task : Task}
    (hread : ReadsAs GlobalOption.specs false front options)
    (hdisplay : ∀ option ∈ options, IsDisplay option)
    (hargs : inv.arguments = front ++ c.name :: rest) (htask : c.read rest = .ok task) :
    plan inv = ((openLog inv ⟨[], []⟩).mapError fun b => (.broken b, none)).map fun log =>
      ⟨.ofArguments ⟨options, []⟩, log, c, task⟩ := by
  have hcalls : Calls inv ⟨options, c.name :: rest⟩ c.name rest :=
    ⟨by rw [hargs, readGlobal_display hread hdisplay], rfl⟩
  rw [plan_of_command hcalls c.ofName?_name, openLog_of_display hdisplay, htask]
  cases openLog inv ⟨[], []⟩ <;> rfl

end

end RecordFilter.CommandLine
