import RecordFilter.Proofs.Script.Trace

/-!
# Scripts under a constraint

A constraint decides which fields are refused, and nothing else. As long as it accepts the fields of
a script, the builders do what they would do without one: they show and return the same texts, fail
at the same calls and write the same log records. No call changes a constraint, so it is enough to
look at the constraints that the builders start with.

## Main statements

* `Call.run_lift`: what a call does when it is not refused.
* `runScript_lift`: what a script does when no call of it is refused.
* `Writes.getLast?_build_of_accepted`: what is built behind such a script.
-/

namespace RecordFilter

/-! ## Calls -/

/-- The field of the call, if it names one, is accepted under the constraint. -/
def Call.Accepted (k : Constraint) : Call → Prop
  | compare _ field _ | compareBy _ field _ | anyOf field _ => k.accepts field = true
  | _ => True

/-- The builder without its constraint. -/
def Builder.lift (b : Builder) : Builder := { b with constraint := .free }

def Outcome.lift (o : Outcome) : Outcome := { o with builder := o.builder.lift }

theorem Builder.compare_lift {b : Builder} {field : String} (h : b.constraint.accepts field = true)
    (op : Operator) (v : Value) : b.lift.compare op field v = (b.compare op field v).lift := by
  have hfield : b.constraint.refusal? field = none := Constraint.refusal?_eq_none_iff.2 h
  unfold compare
  rw [hfield]
  simp only [lift, Constraint.refusal?_free]
  split <;> rfl

theorem Builder.anyOf_lift {b : Builder} {field : String} (h : b.constraint.accepts field = true)
    (values : Value) : b.lift.anyOf field values = (b.anyOf field values).lift := by
  have hfield : b.constraint.refusal? field = none := Constraint.refusal?_eq_none_iff.2 h
  unfold anyOf
  rw [hfield]
  simp only [lift, Constraint.refusal?_free]
  cases values.items? with
  | none => rfl
  | some items =>
    dsimp only
    split <;> rfl

/-- A call that is not refused does the same without the constraint. -/
theorem Call.run_lift {c : Call} {b : Builder} (h : c.Accepted b.constraint) :
    c.run b.lift = (c.run b).lift := by
  cases c with
  | compare op field v => exact Builder.compare_lift h op v
  | compareBy symbol field v =>
    simp only [run]
    cases Operator.ofSymbol symbol with
    | error e => rfl
    | ok op => exact Builder.compare_lift h op v
  | anyOf field values => exact Builder.anyOf_lift h values
  | custom fragment =>
    simp only [run, Builder.custom]
    split <;> rfl
  | connect _ | openBracket | closeBracket | read | inspect | build => rfl

/-! ## Steps -/

section
variable {ι : Type}

mutual

/-- The fields of the step are accepted under the constraints of the builders they are given to. -/
def Step.Accepted (k : ι → Option Constraint) : Step ι → Prop
  | .call i c => ∀ l ∈ k i, c.Accepted l
  | .group _ body => BlockAccepted k body

def BlockAccepted (k : ι → Option Constraint) : List (Step ι) → Prop
  | [] => True
  | step :: steps => step.Accepted k ∧ BlockAccepted k steps

end

@[simp] theorem blockAccepted_append {k : ι → Option Constraint} {steps steps' : List (Step ι)} :
    BlockAccepted k (steps ++ steps') ↔ BlockAccepted k steps ∧ BlockAccepted k steps' := by
  induction steps with
  | nil => simp [BlockAccepted]
  | cons step steps ih => simp [BlockAccepted, ih, and_assoc]

namespace Bench

/-- The constraints of the builders on the bench. -/
def constraints (s : Bench ι) : ι → Option Constraint := fun i => (s i).map Builder.constraint

/-- The bench with its builders freed of their constraints. -/
def lift (s : Bench ι) : Bench ι := fun i => (s i).map Builder.lift

/-- Builders with the same constraints stand under the same names. -/
theorem exists_builder_of_constraints {s s' : Bench ι} (h : s'.constraints = s.constraints) {i : ι}
    {b : Builder} (hb : s i = some b) : ∃ b', s' i = some b' ∧ b'.constraint = b.constraint := by
  have hi := congrFun h i
  simp only [constraints, hb, Option.map_some] at hi
  exact Option.map_eq_some_iff.1 hi

end Bench

def Ran.lift (r : Ran ι) : Ran ι := { r with bench := r.bench.lift }

def RanBlock.lift (r : RanBlock ι) : RanBlock ι := { r with bench := r.bench.lift }

end

variable {ι : Type} [DecidableEq ι]

namespace Bench

theorem lift_put (s : Bench ι) (i : ι) (b : Builder) : (s.put i b).lift = s.lift.put i b.lift := by
  funext j
  by_cases hj : j = i <;> simp [lift, put, hj]

theorem constraints_put {s : Bench ι} {i : ι} {b b' : Builder} (hb : s i = some b)
    (hconstraint : b'.constraint = b.constraint) : (s.put i b').constraints = s.constraints := by
  funext j
  by_cases hj : j = i
  · subst hj
    simp [constraints, put, hb, hconstraint]
  · simp [constraints, put, hj]

end Bench

mutual

/-- A step keeps the constraints of the builders. -/
theorem Step.constraints_run (step : Step ι) (s : Bench ι) :
    (step.run s).bench.constraints = s.constraints := by
  match step with
  | .call i c =>
    cases hb : s i with
    | none => rw [Step.run_call_of_none hb]
    | some b =>
      rw [Step.run_call hb]
      exact Bench.constraints_put hb (c.takes_run b).constraint
  | .group i body =>
    cases hb : s i with
    | none => rw [Step.run_group_of_none hb]
    | some b =>
      have hopen : (s.put i b.openBracket).constraints = s.constraints :=
        Bench.constraints_put hb rfl
      have hbody := runBlock_constraints body (s.put i b.openBracket)
      obtain ⟨b', hb', -⟩ := Bench.exists_builder_of_constraints (hbody.trans hopen) hb
      have hclose : Bench.constraints (Bench.put _ i b'.closeBracket) = _ :=
        Bench.constraints_put hb' rfl
      rw [Step.run_group hb hb']
      exact hclose.trans (hbody.trans hopen)

theorem runBlock_constraints (steps : List (Step ι)) (s : Bench ι) :
    (runBlock steps s).bench.constraints = s.constraints := by
  match steps with
  | [] => rfl
  | step :: steps =>
    have hstep := step.constraints_run s
    cases herror : (step.run s).answer.error with
    | some e =>
      simp only [runBlock, herror]
      exact hstep
    | none =>
      simp only [runBlock, herror]
      exact (runBlock_constraints steps _).trans hstep

end

mutual

/-- A step whose fields are accepted does the same without the constraints. -/
theorem Step.run_lift (step : Step ι) {s : Bench ι} (h : step.Accepted s.constraints) :
    step.run s.lift = (step.run s).lift := by
  match step with
  | .call i c =>
    cases hb : s i with
    | none =>
      have hlift : s.lift i = none := by simp [Bench.lift, hb]
      rw [Step.run_call_of_none hb, Step.run_call_of_none hlift]
      rfl
    | some b =>
      have hlift : s.lift i = some b.lift := by simp [Bench.lift, hb]
      have hcall : c.Accepted b.constraint := h _ (by simp [Bench.constraints, hb])
      rw [Step.run_call hb, Step.run_call hlift, Call.run_lift hcall]
      simp only [Ran.lift, Bench.lift_put]
      rfl
  | .group i body =>
    cases hb : s i with
    | none =>
      have hlift : s.lift i = none := by simp [Bench.lift, hb]
      rw [Step.run_group_of_none hb, Step.run_group_of_none hlift]
      rfl
    | some b =>
      have hlift : s.lift i = some b.lift := by simp [Bench.lift, hb]
      have hopen : (s.put i b.openBracket).constraints = s.constraints :=
        Bench.constraints_put hb rfl
      have hbody : runBlock body (s.lift.put i b.lift.openBracket) =
          (runBlock body (s.put i b.openBracket)).lift := by
        have hput : s.lift.put i b.lift.openBracket = (s.put i b.openBracket).lift :=
          (s.lift_put i b.openBracket).symm
        rw [hput]
        exact runBlock_lift body (hopen ▸ (h : BlockAccepted s.constraints body))
      obtain ⟨b', hb', -⟩ := Bench.exists_builder_of_constraints
        ((runBlock_constraints body (s.put i b.openBracket)).trans hopen) hb
      have hlift' : (runBlock body (s.lift.put i b.lift.openBracket)).bench i = some b'.lift := by
        simp [hbody, RanBlock.lift, Bench.lift, hb']
      rw [Step.run_group hb hb', Step.run_group hlift hlift', hbody]
      simp only [Ran.lift, RanBlock.lift, Bench.lift_put]
      rfl

theorem runBlock_lift (steps : List (Step ι)) {s : Bench ι}
    (h : BlockAccepted s.constraints steps) : runBlock steps s.lift = (runBlock steps s).lift := by
  match steps with
  | [] => rfl
  | step :: steps =>
    obtain ⟨haccepted, hsteps⟩ : step.Accepted s.constraints ∧ BlockAccepted s.constraints steps :=
      h
    have hstep := step.run_lift haccepted
    have hrest := runBlock_lift steps (s := (step.run s).bench) (step.constraints_run s ▸ hsteps)
    simp only [runBlock, hstep, Ran.lift]
    cases (step.run s).answer.error with
    | some e => rfl
    | none =>
      simp only [hrest]
      rfl

end

/-- A script whose fields are accepted does the same without the constraints. -/
theorem runScript_lift {steps : List (Step ι)} {s : Bench ι}
    (h : BlockAccepted s.constraints steps) :
    runScript steps s.lift = (runScript steps s).lift := by
  induction steps generalizing s with
  | nil => rfl
  | cons step steps ih =>
    obtain ⟨haccepted, hsteps⟩ : step.Accepted s.constraints ∧ BlockAccepted s.constraints steps :=
      h
    have hstep := step.run_lift haccepted
    have hrest := ih (s := (step.run s).bench) (step.constraints_run s ▸ hsteps)
    simp only [runScript, hstep, Ran.lift, hrest]
    rfl

/-- Building after steps whose fields are accepted returns the normal form of what they write. -/
theorem Writes.getLast?_build_of_accepted {i : ι} {steps : List (Step ι)} {w : String}
    (h : Writes i steps w) {s : Bench ι} {k : Constraint} (hs : s i = some (.new k))
    (haccepted : BlockAccepted s.constraints steps) :
    (runScript (steps ++ [.call i .build]) s).answers.getLast? =
      some (.call "" .null (some (normalize w)) none) := by
  have hbuild : BlockAccepted s.constraints (steps ++ [.call i .build]) :=
    blockAccepted_append.2 ⟨haccepted, fun _ _ => trivial, trivial⟩
  have hlift : s.lift i = some (.new .free) := by simp [Bench.lift, hs, Builder.lift, Builder.new]
  have hanswers := congrArg RanBlock.answers (runScript_lift hbuild)
  rw [← h.getLast?_build hlift, hanswers]
  rfl

end RecordFilter
