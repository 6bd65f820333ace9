import RecordFilter.Proofs.CommandLine.Ending
import RecordFilter.Proofs.CommandLine.Reading

/-!
# Runs whose arguments differ in some options

To compare two runs, the options are left out in which their arguments differ. If these are
harmless, that is, if they ask for no information and their values are accepted, both runs end
before a command is found, and in the same way, or both call the same command with the same words
behind it. From there on they differ in the settings and in the log file only.

## Main statements

* `accept_only`: harmless options do not matter for the others.
* `callAlike`: arguments that differ in harmless options call the same command.
* `runIn_of_command`: what a run comes to once a command has been called.
* `onTerminal_of_command`: what is shown of it does not depend on a plain log file.
-/

namespace RecordFilter.CommandLine

/-! ## Options left out -/

section
variable {α β ε : Type} {p : α → Bool}

theorem findSome?_filter_of_none {f : α → Option β} (h : ∀ x, p x = false → f x = none)
    (l : List α) : (l.filter p).findSome? f = l.findSome? f := by
  induction l with
  | nil => rfl
  | cons x l ih => cases hx : p x <;> simp [hx, List.findSome?_cons, ih, h x]

/-- A walk need not come by what passes. -/
theorem forM_filter_of_ok {f g : α → Except ε Unit} (hkept : ∀ x, p x = true → f x = g x)
    (hleft : ∀ x, p x = false → g x = .ok ()) (l : List α) : (l.filter p).forM f = l.forM g := by
  induction l with
  | nil => rfl
  | cons x l ih =>
    change _ = g x >>= fun _ => l.forM g
    rw [← ih]
    cases hx : p x with
    | true =>
      rw [List.filter_cons_of_pos hx, ← hkept x hx]
      rfl
    | false =>
      rw [List.filter_cons_of_neg (by simp [hx]), hleft x hx]
      rfl

end

namespace Arguments

section
variable {κ : Type} {keep : κ → Bool} {a : Arguments κ}

/-- The arguments without some of the options. -/
def only (keep : κ → Bool) (a : Arguments κ) : Arguments κ :=
  { a with options := a.options.filter fun option => keep option.1 }

theorem keys_only : (a.only keep).options.map Prod.fst = (a.options.map Prod.fst).filter keep := by
  rw [List.filter_map]
  rfl

section
variable [DecidableEq κ] {key : κ}

theorem has_eq_filter : a.has key = !(a.options.filter (·.1 = key)).isEmpty := by
  rw [has, Bool.eq_iff_iff]
  simp

theorem filter_only (h : keep key = true) :
    (a.only keep).options.filter (·.1 = key) = a.options.filter (·.1 = key) := by
  rw [only, List.filter_filter]
  congr 1
  funext option
  by_cases hkey : option.1 = key <;> simp [hkey, h]

theorem has_only (h : keep key = true) : (a.only keep).has key = a.has key := by
  rw [has_eq_filter, filter_only h, has_eq_filter]

theorem count_only (h : keep key = true) : (a.only keep).count key = a.count key := by
  rw [count, filter_only h, count]

theorem value?_only (h : keep key = true) : (a.only keep).value? key = a.value? key := by
  rw [value?, values, filter_only h, value?, values]

end

/-- The words are read alike, up to the options that are left out. -/
def ReadAlike (specs : List (OptionSpec κ)) (mixed : Bool) (keep : κ → Bool)
    (words words' : List String) : Prop :=
  (read specs mixed words).map (only keep) = (read specs mixed words').map (only keep)

/-- Either both cannot be read, for the same reason, or both can. -/
theorem ReadAlike.error_or_ok {specs : List (OptionSpec κ)} {mixed : Bool}
    {words words' : List String} (h : ReadAlike specs mixed keep words words') :
    (∃ p, read specs mixed words = .error p ∧ read specs mixed words' = .error p) ∨
      ∃ a a', read specs mixed words = .ok a ∧ read specs mixed words' = .ok a' ∧
        a.only keep = a'.only keep := by
  unfold ReadAlike at h
  cases hread : read specs mixed words <;> cases hread' : read specs mixed words' <;>
    rw [hread, hread'] at h
  · cases h
    exact .inl ⟨_, rfl, rfl⟩
  · cases h
  · cases h
  · exact .inr ⟨_, _, rfl, rfl, Except.ok.inj h⟩

end

end Arguments

open Arguments

namespace GlobalOption

/-- Is the option about the log file? -/
def isLog : GlobalOption → Bool
  | logFile | noLogFile => true
  | _ => false

end GlobalOption

section
variable {files : FileSystem} {keep : GlobalOption → Bool} {a : Arguments GlobalOption}

/-- What becomes of options that could be read. -/
def accept (files : FileSystem) (a : Arguments GlobalOption) : Except Dismissal Unit :=
  match (a.options.map Prod.fst).findSome? GlobalOption.information? with
  | some i => .error (.told i)
  | none => (a.options.map Prod.fst).forM (checkOption files a)

theorem readGlobal_eq_accept (files : FileSystem) {args : List String}
    (hread : Arguments.read GlobalOption.specs false args = .ok a) :
    readGlobal files args = (accept files a).map fun _ => a := by
  unfold accept
  split
  · next i hinfo =>
    simp only [readGlobal, readArguments, hread, bind, Except.bind, hinfo]
    rfl
  · next hinfo => rw [readGlobal_of_read hread hinfo]

/-- The options that are left out ask for nothing, and their values are accepted. -/
def Harmless (files : FileSystem) (keep : GlobalOption → Bool) (a : Arguments GlobalOption) :
    Prop :=
  ∀ key, keep key = false → key.information? = none ∧ checkOption files a key = .ok ()

/-- Without harmless options the others are accepted or refused as before. -/
theorem accept_only (h : Harmless files keep a) : accept files (a.only keep) = accept files a := by
  have hkept : ∀ key, keep key = true →
      checkOption files (a.only keep) key = checkOption files a key := by
    intro key hkeep
    cases key <;> simp only [checkOption, value?_only hkeep]
  rw [accept, keys_only, findSome?_filter_of_none fun key hkey => (h key hkey).1,
    forM_filter_of_ok hkept fun key hkey => (h key hkey).2, accept]

/-- If the name of a log file is accepted, the options about the log are harmless. -/
theorem harmless_log (h : checkLogFile files ((a.value? .logFile).getD "") = .ok ()) :
    Harmless files (!·.isLog) a := by
  intro key hkey
  cases key with
  | logFile => exact ⟨rfl, h⟩
  | noLogFile => exact ⟨rfl, rfl⟩
  | output | json | quiet | verbose | version | help => cases hkey

/-- The settings do not depend on the options about the log. -/
theorem ofArguments_only_log : Settings.ofArguments (a.only (!·.isLog)) = .ofArguments a := by
  rw [Settings.ofArguments, has_only rfl, has_only rfl, value?_only rfl, count_only rfl,
    Settings.ofArguments]

end

/-! ## Two runs -/

/-- How two argument lists that differ in some options come to a command: both end before, in the
same way, or both call the same command with the same words behind it. -/
inductive CallAlike (inv : Invocation) (keep : GlobalOption → Bool) (args args' : List String) :
    Prop
  | ended {d : Dismissal} (hplan : plan (inv.withArguments args) = .error (d, none))
    (hplan' : plan (inv.withArguments args') = .error (d, none)) : CallAlike inv keep args args'
  | called {a a' : Arguments GlobalOption} {name : String} {rest : List String} {c : Command}
    (hread : Arguments.read GlobalOption.specs false args = .ok a)
    (hread' : Arguments.read GlobalOption.specs false args' = .ok a')
    (hsame : a.only keep = a'.only keep) (hcalls : Calls (inv.withArguments args) a name rest)
    (hcalls' : Calls (inv.withArguments args') a' name rest)
    (hname : Command.ofName? name = some c) : CallAlike inv keep args args'

section
variable {inv : Invocation} {keep : GlobalOption → Bool} {args args' : List String}

/-- Options that have been accepted, with the same operands behind them. -/
theorem CallAlike.of_accepted {a a' : Arguments GlobalOption}
    (hread : Arguments.read GlobalOption.specs false args = .ok a)
    (hread' : Arguments.read GlobalOption.specs false args' = .ok a')
    (hsame : a.only keep = a'.only keep) (hglobal : readGlobal inv.files args = .ok a)
    (hglobal' : readGlobal inv.files args' = .ok a') : CallAlike inv keep args args' := by
  have hoperands : a'.operands = a.operands :=
    (congrArg (fun b : Arguments GlobalOption => b.operands) hsame).symm
  cases hwords : a.operands with
  | nil =>
    exact .ended (plan_of_no_name hglobal hwords)
      (plan_of_no_name hglobal' (hoperands.trans hwords))
  | cons name rest =>
    have hcalls : Calls (inv.withArguments args) a name rest := ⟨hglobal, hwords⟩
    have hcalls' : Calls (inv.withArguments args') a' name rest :=
      ⟨hglobal', hoperands.trans hwords⟩
    cases hname : Command.ofName? name with
    | some c => exact .called hread hread' hsame hcalls hcalls' hname
    | none =>
      -- what is read behind the unknown name is the same in both
      have hplan := plan_of_no_command hcalls hname
      have hplan' := plan_of_no_command hcalls' hname
      cases hbehind : readGlobal inv.files (name :: rest) with
      | error d | ok b =>
        simp only [Invocation.withArguments, hbehind] at hplan hplan'
        exact .ended hplan hplan'

/-- Arguments that differ in harmless options call the same command. -/
theorem callAlike (halike : ReadAlike GlobalOption.specs false keep args args')
    (h : ∀ a, Arguments.read GlobalOption.specs false args = .ok a → Harmless inv.files keep a)
    (h' : ∀ a, Arguments.read GlobalOption.specs false args' = .ok a → Harmless inv.files keep a) :
    CallAlike inv keep args args' := by
  rcases halike.error_or_ok with ⟨p, hread, hread'⟩ | ⟨a, a', hread, hread', hsame⟩
  · have hfail : ∀ {words : List String}, Arguments.read GlobalOption.specs false words = .error p →
        plan (inv.withArguments words) =
          .error (.misused programManual (.unreadable p), none) := by
      intro words hwords
      refine plan_of_error ?_
      rw [readGlobal, readArguments]
      simp only [Invocation.withArguments, hwords]
      rfl
    exact .ended (hfail hread) (hfail hread')
  · have haccept : accept inv.files a' = accept inv.files a := by
      rw [← accept_only (h' a' hread'), ← hsame, accept_only (h a hread)]
    have hglobal := readGlobal_eq_accept inv.files hread
    have hglobal' := readGlobal_eq_accept inv.files hread'
    rw [haccept] at hglobal'
    cases hchecked : accept inv.files a with
    | error d =>
      rw [hchecked] at hglobal hglobal'
      exact .ended (plan_of_error hglobal) (plan_of_error hglobal')
    | ok u =>
      rw [hchecked] at hglobal hglobal'
      exact .of_accepted hread hread' hsame hglobal hglobal'

/-- What the user can see of a result. -/
def Result.onTerminal (r : Result) : Result := { r with fileLog := none }

section
variable {w : Surroundings} {a : Arguments GlobalOption} {name : String} {rest : List String}
  {c : Command} {log : Option Path}

/-- What a run comes to once a command has been called and its log opened. -/
theorem runIn_of_command (hcalls : Calls inv a name rest) (hname : Command.ofName? name = some c)
    (hlog : openLog inv a = .ok log) (input : Input) (elapsed : Nat) :
    runIn w inv input elapsed = match c.read rest with
      | .error d => d.result w inv.layout log
      | .ok task =>
        Plan.result ⟨.ofArguments a, log, c, task⟩ w elapsed inv.width (task.run input) := by
  rw [runIn, plan_of_command hcalls hname, hlog]
  cases c.read rest <;> rfl

/-- A run that is dismissed shows the same whether a plain log file has been opened or not. -/
theorem onTerminal_dismissed {logFile : Option Path}
    (h : ∀ path ∈ logFile, w.device path = .file) (layout : Manual → Sheet) (d : Dismissal) :
    (d.result w layout logFile).onTerminal = (d.result w layout none).onTerminal := by
  have hnone : ∀ s, w.closing? (.configured 0 none) s = none := fun _ => rfl
  cases d with
  | broken b => rfl
  | told i =>
    simp only [Dismissal.result, Surroundings.close, Surroundings.closing?_of_plain h, hnone]
    rfl
  | misused manual m =>
    simp only [Dismissal.result, Surroundings.closing?_of_plain h, hnone]
    rfl

/-- So does one with a plan. -/
theorem onTerminal_planned {p : Plan} (h : ∀ path ∈ p.logFile, w.device path = .file)
    (elapsed width : Nat) (work : Work) :
    (p.result w elapsed width work).onTerminal =
      (Plan.result { p with logFile := none } w elapsed width work).onTerminal := by
  have hnone : ∀ path ∈ (none : Option Path), w.device path = .file := nofun
  simp only [Plan.result, Plan.logger, Surroundings.close, Surroundings.closing?_of_plain h,
    Surroundings.closing?_of_plain hnone, Surroundings.logAll_of_plain h,
    Surroundings.logAll_of_plain hnone]
  rfl

/-- What is shown of a run does not depend on its log file, as long as it is a plain one. -/
theorem onTerminal_of_command {args args' : List String} {a' : Arguments GlobalOption}
    {log' : Option Path} (hcalls : Calls (inv.withArguments args) a name rest)
    (hcalls' : Calls (inv.withArguments args') a' name rest)
    (hname : Command.ofName? name = some c) (hlog : openLog (inv.withArguments args) a = .ok log)
    (hlog' : openLog (inv.withArguments args') a' = .ok log')
    (hplain : ∀ path ∈ log, w.device path = .file)
    (hplain' : ∀ path ∈ log', w.device path = .file)
    (hsettings : Settings.ofArguments a = .ofArguments a') (input : Input) (elapsed : Nat) :
    (runIn w (inv.withArguments args) input elapsed).onTerminal =
      (runIn w (inv.withArguments args') input elapsed).onTerminal := by
  rw [runIn_of_command hcalls hname hlog, runIn_of_command hcalls' hname hlog', hsettings]
  cases c.read rest with
  | error d => exact (onTerminal_dismissed hplain _ d).trans (onTerminal_dismissed hplain' _ d).symm
  | ok task =>
    have hplanned' := onTerminal_planned (p := ⟨.ofArguments a', log', c, task⟩) hplain' elapsed
      inv.width (task.run input)
    exact (onTerminal_planned hplain elapsed inv.width (task.run input)).trans hplanned'.symm

end

end

end RecordFilter.CommandLine
