import RecordFilter.CommandLine.Surroundings

/-!
# What is logged

A record comes to the console if the user wants to see records of its level, and to the log file, if
there is one, in any case. A plain file keeps what it is handed and is not heard of again, so the
console shows the same as without a file.

## Main statements

* `log_configured`: what a record comes to.
* `handedTo_logAll`: a log file is handed every record, whatever it does with it.
* `logAll_of_plain`: what the console shows and what a plain file keeps.
-/

namespace RecordFilter.CommandLine

/-- Does the user want to see the record? -/
def wanted (verbosity : Nat) (r : LogRecord) : Bool :=
  (Level.ofVerbosity verbosity).rank ≤ r.level.rank

/-- The records that the user wants to see come to the console, and all come to the file. Handlers
of other loggers are not reached. -/
theorem recipients_configured (above : List Handler) (verbosity : Nat) (logFile : Option Path)
    (r : LogRecord) : (Logger.configured verbosity logFile).recipients above r =
      (if wanted verbosity r then [⟨Level.ofVerbosity verbosity, .console⟩] else []) ++
        (logFile.map fun path => ⟨.debug, .file path⟩).toList := by
  cases logFile with
  | none =>
    by_cases h : (Level.ofVerbosity verbosity).rank ≤ r.level.rank
    · simp [Logger.configured, Logger.recipients, wanted, h, Nat.not_lt.2 h]
    · simp [Logger.configured, Logger.recipients, wanted, h, Nat.not_le.1 h]
  | some path =>
    have hdebug : Level.debug.rank ≤ r.level.rank := Nat.zero_le _
    by_cases h : (Level.ofVerbosity verbosity).rank ≤ r.level.rank
    · simp [Logger.configured, Logger.recipients, wanted, h, hdebug, Nat.not_lt.2 hdebug]
    · simp [Logger.configured, Logger.recipients, wanted, h, hdebug, Nat.not_lt.2 hdebug]

namespace Surroundings

variable {w : Surroundings} {s : Progress} {r : LogRecord} {verbosity : Nat} {path : Path}

/-- The output when a record has come to the console. -/
def spoken (w : Surroundings) (verbosity : Nat) (out : Output) (r : LogRecord) : Output :=
  if wanted verbosity r then (w.handle r ⟨out, []⟩ ⟨Level.ofVerbosity verbosity, .console⟩).output
  else out

/-- The console does not look at what is in the files. -/
theorem handle_console (level : Level) : w.handle r s ⟨level, .console⟩ =
    { s with output := (w.handle r ⟨s.output, []⟩ ⟨level, .console⟩).output } := by
  simp only [handle]
  split <;> rfl

/-- What a record comes to: first the console, and then the file. -/
theorem log_configured (logFile : Option Path) :
    w.log (.configured verbosity logFile) s r =
      (logFile.map fun path => ⟨.debug, .file path⟩).toList.foldl (w.handle r)
        { s with output := w.spoken verbosity s.output r } := by
  rw [log, recipients_configured, List.foldl_append, spoken]
  cases wanted verbosity r with
  | false => rfl
  | true =>
    rw [if_pos rfl, List.foldl_cons, List.foldl_nil, handle_console, if_pos rfl]

/-! ## What a file is handed -/

theorem handle_plain (h : w.device path = .file) (level : Level) :
    w.handle r s ⟨level, .file path⟩ = s.enter path r true := by
  simp only [handle, h, Device.file]
  rfl

theorem log_of_plain {logFile : Option Path} (h : ∀ path ∈ logFile, w.device path = .file) :
    w.log (.configured verbosity logFile) s r =
      ⟨w.spoken verbosity s.output r, s.entries ++ logFile.toList.map (⟨·, r, true⟩)⟩ := by
  rw [log_configured]
  cases logFile with
  | none => simp
  | some path =>
    rw [Option.map_some, Option.toList_some, List.foldl_cons, List.foldl_nil,
      handle_plain (h path rfl)]
    rfl

/-- What the console shows does not depend on a plain file, and the file keeps every record. -/
theorem logAll_of_plain {logFile : Option Path} (h : ∀ path ∈ logFile, w.device path = .file)
    (records : List LogRecord) :
    w.logAll (.configured verbosity logFile) records =
      ⟨records.foldl (w.spoken verbosity) .empty,
        records.flatMap fun r => logFile.toList.map (⟨·, r, true⟩)⟩ := by
  have hfold : ∀ s : Progress, records.foldl (w.log (.configured verbosity logFile)) s =
      ⟨records.foldl (w.spoken verbosity) s.output,
        s.entries ++ records.flatMap fun r => logFile.toList.map (⟨·, r, true⟩)⟩ := by
    induction records with
    | nil => simp
    | cons r records ih =>
      intro s
      rw [List.foldl_cons, ih, log_of_plain h]
      simp
  rw [logAll, hfold, List.nil_append]

theorem keptIn_logAll (h : w.device path = .file) (verbosity : Nat) (records : List LogRecord) :
    (w.logAll (.configured verbosity (some path)) records).keptIn path = records := by
  have hentries : (records.flatMap fun r => [(⟨path, r, true⟩ : Entry)]) =
      records.map (⟨path, ·, true⟩) := List.map_eq_flatMap.symm
  rw [logAll_of_plain (by simpa using h), Progress.keptIn]
  simp [hentries, List.filter_map, Function.comp_def]

/-- A plain file can be closed. -/
theorem closing?_of_plain {logFile : Option Path} (h : ∀ path ∈ logFile, w.device path = .file)
    (s : Progress) : w.closing? (.configured verbosity logFile) s = none := by
  cases logFile with
  | none => rfl
  | some path => simp [closing?, Logger.files, Logger.configured, h path rfl, Device.file]

end Surroundings

/-! ## Where nothing is refused -/

/-- The log as the console shows it. -/
def shownLog (verbosity : Nat) (records : List LogRecord) : String :=
  String.join ((records.filter (wanted verbosity)).map fun r => r.line ++ "\n")

/-- The console shows the records that the user wants to see, and a file keeps all. -/
theorem logAll_reliable (verbosity : Nat) (logFile : Option Path) (records : List LogRecord) :
    (Surroundings.reliable.logAll (.configured verbosity logFile) records).output =
      ⟨"", shownLog verbosity records⟩ := by
  have hfold : ∀ text : String,
      records.foldl (Surroundings.reliable.spoken verbosity) ⟨"", text⟩ =
        ⟨"", text ++ shownLog verbosity records⟩ := by
    induction records with
    | nil => simp [shownLog]
    | cons r records ih =>
      intro text
      rw [List.foldl_cons]
      cases hwanted : wanted verbosity r with
      | false => simp [Surroundings.spoken, hwanted, ih, shownLog]
      | true =>
        have hspoken : Surroundings.reliable.spoken verbosity ⟨"", text⟩ r =
            ⟨"", text ++ (r.line ++ "\n")⟩ := by simp [Surroundings.spoken, hwanted]; rfl
        rw [hspoken, ih]
        simp [shownLog, hwanted, String.append_assoc]
  rw [Surroundings.logAll_of_plain fun _ _ => rfl]
  exact (hfold "").trans (by simp)

end RecordFilter.CommandLine
