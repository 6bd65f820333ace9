import Mathlib.Data.List.DropRight
import RecordFilter.Proofs.Script.Call

/-!
# Traces

The answers of a script show which calls were made, in order: those of a group stand between the
calls for its brackets, and the steps behind a failed one are not among them. What a builder holds
at any time is what the calls on it have appended since the last one that built, and this is also
what that call normalizes. Nothing else is left behind: a builder that has just built is as good as
a new one with the same constraint.

## Main statements

* `Call.takes_run`: what one call appends, whether it fails or not.
* `runScript_goesOn`: the builders hold and show what the calls of the trace have appended.
* `build_renews`: what building returns, and what it leaves to the steps behind it.
-/

namespace RecordFilter

/-! ## One call -/

namespace Call

def isBuild : Call → Bool
  | build => true
  | _ => false

/-- The fragments that the call appends to a builder with this constraint. -/
def fragments (k : Constraint) : Call → List String
  | compare op field v => if k.accepts field then Condition.fragments ⟨field, op, v⟩ else []
  | compareBy symbol field v =>
    match Operator.ofValue? symbol with
    | some op => if k.accepts field then Condition.fragments ⟨field, op, v⟩ else []
    | none => []
  | anyOf field values =>
    if k.accepts field then Builder.alternativeFragments field (values.items?.getD []) else []
  | connect c => [c.spaced]
  | openBracket => ["("]
  | closeBracket => [")"]
  | custom fragment => (fragment.filter (· ≠ "")).toList
  | read | inspect | build => []

theorem fragments_of_isBuild {c : Call} (h : c.isBuild = true) (k : Constraint) :
    c.fragments k = [] := by
  cases c <;> first | rfl | cases h

end Call

/-- What the call does to what the builder holds. -/
structure Builder.Takes (b : Builder) (c : Call) (b' : Builder) : Prop where
  constraint : b'.constraint = b.constraint
  fragments : b'.fragments = (if c.isBuild then [] else b.fragments) ++ c.fragments b.constraint

theorem Builder.takes_compare (b : Builder) (op : Operator) (field : String) (v : Value) :
    b.Takes (.compare op field v) (b.compare op field v).builder := by
  cases hfield : b.constraint.refusal? field with
  | some e =>
    have hrefused := Constraint.accepts_of_refusal hfield
    rw [compare_of_refused hfield]
    exact ⟨rfl, by simp [Call.isBuild, Call.fragments, hrefused, Outcome.failed]⟩
  | none =>
    have haccepted := Constraint.refusal?_eq_none_iff.1 hfield
    rw [builder_compare hfield]
    exact ⟨rfl, by simp [Call.isBuild, Call.fragments, haccepted, appendAll, withLast]⟩

theorem Builder.takes_anyOf (b : Builder) (field : String) (values : Value) :
    b.Takes (.anyOf field values) (b.anyOf field values).builder := by
  cases hfield : b.constraint.refusal? field with
  | some e =>
    have hrefused := Constraint.accepts_of_refusal hfield
    rw [anyOf_of_refused hfield]
    exact ⟨rfl, by simp [Call.isBuild, Call.fragments, hrefused, Outcome.failed]⟩
  | none =>
    have haccepted := Constraint.refusal?_eq_none_iff.1 hfield
    cases hitems : values.items? with
    | none =>
      rw [anyOf_of_not_iterable hfield hitems]
      exact ⟨rfl, by simp [Call.isBuild, Call.fragments, haccepted, hitems, Outcome.failed,
        alternativeFragments, alternatives]⟩
    | some items =>
      obtain ⟨hconstraint, hfragments⟩ := fragments_anyOf hfield hitems
      exact ⟨hconstraint, by simp [Call.isBuild, Call.fragments, haccepted, hitems, hfragments]⟩

/-- Every call, failed or not, keeps the constraint and appends its fragments; a call that builds
drops the fragments there were. -/
theorem Call.takes_run (c : Call) (b : Builder) : b.Takes c (c.run b).builder := by
  cases c with
  | compare op field v => exact b.takes_compare op field v
  | compareBy symbol field v =>
    simp only [run]
    cases hop : Operator.ofSymbol symbol with
    | error e =>
      have hnone : Operator.ofValue? symbol = none := by
        rw [Option.eq_none_iff_forall_ne_some]
        intro op hvalue
        rw [Operator.ofSymbol_eq_ok_iff.2 (Operator.ofValue?_eq_some_iff.1 hvalue)] at hop
        cases hop
      exact ⟨rfl, by simp [isBuild, fragments, hnone, Outcome.failed]⟩
    | ok op =>
      have hsome := Operator.ofValue?_eq_some_iff.2 (Operator.ofSymbol_eq_ok_iff.1 hop)
      obtain ⟨hconstraint, hfragments⟩ := b.takes_compare op field v
      exact ⟨hconstraint, by simpa [isBuild, fragments, hsome] using hfragments⟩
  | anyOf field values => exact b.takes_anyOf field values
  | custom fragment =>
    cases fragment with
    | none => exact ⟨rfl, (List.append_nil _).symm⟩
    | some text =>
      by_cases htext : text = ""
      · subst htext
        exact ⟨rfl, (List.append_nil _).symm⟩
      · constructor <;> simp [run, Builder.custom, Outcome.done, Builder.append, Builder.withLast,
          isBuild, fragments, Option.filter, htext]
  | connect _ | openBracket | closeBracket => exact ⟨rfl, rfl⟩
  | read | inspect => exact ⟨rfl, (List.append_nil _).symm⟩
  | build => exact ⟨rfl, rfl⟩

/-! ## Calls that were made -/

/-- A call that was made, with the filter that was shown behind it, if it was, and the text that the
call returned. -/
structure Made (ι : Type) where
  target : ι
  call : Call
  query : Option String
  value : Option String

section
variable {ι : Type}

mutual

/-- The calls that a step made, by its answer. A group makes those for its brackets around those of
the steps in it that were run. -/
def Step.made : Step ι → Answer → List (Made ι)
  | .call i c, .call q _ v _ => [⟨i, c, some q, v⟩]
  | .group i body, .group q _ _ inner =>
    ⟨i, .openBracket, none, none⟩ :: (blockMade body inner ++ [⟨i, .closeBracket, some q, none⟩])
  | _, _ => []

/-- The calls that some steps made, by their answers. -/
def blockMade : List (Step ι) → List Answer → List (Made ι)
  | step :: steps, answer :: answers => step.made answer ++ blockMade steps answers
  | _, _ => []

end

end

/-- Steps without answers were not run. -/
theorem blockMade_nil {ι : Type} (steps : List (Step ι)) : blockMade steps [] = [] := by
  cases steps <;> rfl

variable {ι : Type} [DecidableEq ι]

/-- The fragments that the calls on one builder have appended since the last one that built, or
since the start if none did. -/
def sinceBuild (i : ι) (k : Constraint) (calls : List (Made ι)) : List String :=
  ((calls.filter (·.target = i)).rtakeWhile fun m => !m.call.isBuild).flatMap fun m =>
    m.call.fragments k

theorem sinceBuild_concat_of_ne {i : ι} {m : Made ι} (h : m.target ≠ i) (k : Constraint)
    (calls : List (Made ι)) : sinceBuild i k (calls ++ [m]) = sinceBuild i k calls := by
  simp [sinceBuild, h]

theorem sinceBuild_concat {i : ι} {m : Made ι} (h : m.target = i) (k : Constraint)
    (calls : List (Made ι)) : sinceBuild i k (calls ++ [m]) =
      (if m.call.isBuild then [] else sinceBuild i k calls) ++ m.call.fragments k := by
  have hfilter : (calls ++ [m]).filter (·.target = i) = calls.filter (·.target = i) ++ [m] := by
    simp [h]
  rw [sinceBuild, hfilter]
  cases hbuild : m.call.isBuild with
  | true => simp [List.rtakeWhile_concat_neg, hbuild, Call.fragments_of_isBuild]
  | false => simp [List.rtakeWhile_concat_pos, hbuild, sinceBuild]

/-! ## Runs -/

/-- The bench on which a builder without fragments stands for every constraint. -/
def Bench.fresh (k : ι → Option Constraint) : Bench ι := fun i => (k i).map Builder.new

/-- After the calls of a trace, the builders of the bench hold what these calls have appended. -/
def Follows (k : ι → Option Constraint) (calls : List (Made ι)) (s : Bench ι) : Prop :=
  ∀ i, (s i).map (fun b => (b.constraint, b.fragments)) =
    (k i).map fun c => (c, sinceBuild i c calls)

/-- Behind the calls of a trace, every call shows what its builder holds after it, and returns the
normal form of what it held before it if it builds. -/
def Shows (k : ι → Option Constraint) : List (Made ι) → List (Made ι) → Prop
  | _, [] => True
  | before, m :: calls =>
    (∃ c, k m.target = some c ∧
      (∀ q ∈ m.query, q = String.join (sinceBuild m.target c (before ++ [m]))) ∧
      (m.call.isBuild = true →
        m.value = some (normalize (String.join (sinceBuild m.target c before))))) ∧
      Shows k (before ++ [m]) calls

/-- Running from a bench that a trace leads to goes on with the trace. -/
structure GoesOn (k : ι → Option Constraint) (before calls : List (Made ι)) (s : Bench ι) :
    Prop where
  follows : Follows k (before ++ calls) s
  shows : Shows k before calls

variable {k : ι → Option Constraint} {before calls calls' : List (Made ι)} {s s' : Bench ι} {i : ι}
  {b b' : Builder}

theorem shows_append :
    Shows k before (calls ++ calls') ↔ Shows k before calls ∧ Shows k (before ++ calls) calls' := by
  induction calls generalizing before with
  | nil => simp [Shows]
  | cons m calls ih => simp [Shows, ih, and_assoc]

theorem follows_fresh (k : ι → Option Constraint) : Follows k [] (.fresh k) := by
  intro i
  simp [Bench.fresh, Function.comp_def, Builder.new, sinceBuild]

namespace Follows

/-- A builder has the constraint that it was made with, and holds what was appended. -/
theorem exists_constraint (h : Follows k before s) (hb : s i = some b) :
    k i = some b.constraint ∧ b.fragments = sinceBuild i b.constraint before := by
  have hi := h i
  rw [hb] at hi
  obtain ⟨c, hc, heq⟩ := Option.map_eq_some_iff.1 hi.symm
  obtain ⟨rfl, hfragments⟩ := Prod.mk.inj heq
  exact ⟨hc, hfragments.symm⟩

/-- The bench has the builders that the constraints are for. -/
theorem exists_builder (h : Follows k before s) {c : Constraint} (hc : k i = some c) :
    ∃ b, s i = some b ∧ b.constraint = c := by
  have hi := h i
  rw [hc] at hi
  obtain ⟨b, hb, heq⟩ := Option.map_eq_some_iff.1 hi
  exact ⟨b, hb, congrArg Prod.fst heq⟩

theorem put (h : Follows k before s) {m : Made ι} (hb : s m.target = some b)
    (hm : b.Takes m.call b') : Follows k (before ++ [m]) (s.put m.target b') := by
  obtain ⟨hk, hfragments⟩ := h.exists_constraint hb
  intro j
  by_cases hj : j = m.target
  · subst hj
    rw [hk, Bench.put_self]
    simp [sinceBuild_concat, hm.constraint, hm.fragments, hfragments]
  · have hput : s.put m.target b' j = s j := if_neg hj
    rw [hput, h j]
    simp [sinceBuild_concat_of_ne, Ne.symm hj]

/-- A call on one builder goes on with the trace. -/
theorem goesOn_put (h : Follows k before s) {m : Made ι} (hb : s m.target = some b)
    (hm : b.Takes m.call b') (hquery : ∀ q ∈ m.query, q = b'.query)
    (hvalue : m.call.isBuild = true → m.value = some (normalize b.query)) :
    GoesOn k before [m] (s.put m.target b') := by
  obtain ⟨hk, hfragments⟩ := h.exists_constraint hb
  have hput := h.put hb hm
  obtain ⟨-, hfragments'⟩ := hput.exists_constraint (Bench.put_self s m.target b')
  refine ⟨hput, ⟨b.constraint, hk, fun q hq => ?_, fun hbuild => ?_⟩, trivial⟩
  · rw [hquery q hq, Builder.query, hfragments', hm.constraint]
  · rw [hvalue hbuild, Builder.query, hfragments]

end Follows

namespace GoesOn

theorem nil (h : Follows k before s) : GoesOn k before [] s := ⟨by rwa [List.append_nil], trivial⟩

theorem append (h : GoesOn k before calls s) (h' : GoesOn k (before ++ calls) calls' s') :
    GoesOn k before (calls ++ calls') s' := by
  refine ⟨?_, shows_append.2 ⟨h.shows, h'.shows⟩⟩
  rw [← List.append_assoc]
  exact h'.follows

end GoesOn

theorem Call.value_run {c : Call} (h : c.isBuild = true) (b : Builder) :
    (c.run b).value = some (normalize b.query) := by
  cases c with
  | build => rfl
  | _ => cases h

theorem Step.run_call {c : Call} (hb : s i = some b) : (Step.call i c).run s =
    ⟨s.put i (c.run b).builder, .call (c.run b).builder.query (c.run b).builder.last
      (c.run b).value (c.run b).error, (c.run b).log⟩ := by
  simp only [Step.run, hb]

theorem Step.run_call_of_none {c : Call} (hs : s i = none) :
    (Step.call i c).run s = ⟨s, .skipped, []⟩ := by
  simp only [Step.run, hs]

theorem Step.run_group {body : List (Step ι)} (hb : s i = some b)
    (hb' : (runBlock body (s.put i b.openBracket)).bench i = some b') :
    (Step.group i body).run s =
      ⟨(runBlock body (s.put i b.openBracket)).bench.put i b'.closeBracket,
        .group b'.closeBracket.query b'.closeBracket.last
          (runBlock body (s.put i b.openBracket)).error
          (runBlock body (s.put i b.openBracket)).answers,
        (runBlock body (s.put i b.openBracket)).log⟩ := by
  simp only [Step.run, hb, hb', Option.getD_some]

theorem Step.run_group_of_none {body : List (Step ι)} (hs : s i = none) :
    (Step.group i body).run s = ⟨s, .skipped, []⟩ := by
  simp only [Step.run, hs]

mutual

/-- A step goes on with the trace. -/
theorem Step.goesOn (step : Step ι) {before : List (Made ι)} {s : Bench ι}
    (h : Follows k before s) :
    GoesOn k before (step.made (step.run s).answer) (step.run s).bench := by
  match step with
  | .call i c =>
    cases hb : s i with
    | none =>
      rw [Step.run_call_of_none hb]
      exact .nil h
    | some b =>
      rw [Step.run_call hb]
      exact h.goesOn_put hb (c.takes_run b) (by simp) fun hbuild => c.value_run hbuild b
  | .group i body =>
    cases hb : s i with
    | none =>
      rw [Step.run_group_of_none hb]
      exact .nil h
    | some b =>
      have hopen : GoesOn k before [⟨i, .openBracket, none, none⟩] (s.put i b.openBracket) :=
        h.goesOn_put hb (Call.openBracket.takes_run b) (by simp) (by simp [Call.isBuild])
      have hbody := hopen.append (runBlock_goesOn body hopen.follows)
      -- the steps of the group may have used the builder, but they cannot have taken it away
      obtain ⟨b', hb', -⟩ := hbody.follows.exists_builder (h.exists_constraint hb).1
      have hclose : GoesOn k _ [⟨i, .closeBracket, some b'.closeBracket.query, none⟩] _ :=
        hbody.follows.goesOn_put hb' (Call.closeBracket.takes_run b')
          (by simp [Call.run, Outcome.done]) (by simp [Call.isBuild])
      rw [Step.run_group hb hb']
      exact hbody.append hclose

/-- The steps of a group that are run go on with the trace. -/
theorem runBlock_goesOn (steps : List (Step ι)) {before : List (Made ι)} {s : Bench ι}
    (h : Follows k before s) :
    GoesOn k before (blockMade steps (runBlock steps s).answers) (runBlock steps s).bench := by
  match steps with
  | [] => exact .nil h
  | step :: steps =>
    have hstep := step.goesOn h
    cases herror : (step.run s).answer.error with
    | some e =>
      -- the steps behind it were not run, and have no answers
      simp only [runBlock, herror]
      exact hstep.append (blockMade_nil steps ▸ .nil hstep.follows)
    | none =>
      simp only [runBlock, herror]
      exact hstep.append (runBlock_goesOn steps hstep.follows)

end

/-- At the top of a script all steps are run, and all go on with the trace. -/
theorem runScript_goesOn (steps : List (Step ι)) (h : Follows k before s) :
    GoesOn k before (blockMade steps (runScript steps s).answers) (runScript steps s).bench := by
  induction steps generalizing before s with
  | nil => exact .nil h
  | cons step steps ih =>
    have hstep := step.goesOn h
    exact hstep.append (ih hstep.follows)

/-- The calls of a script show what has been appended to their builders since the last call that
built, and a call that builds returns the normal form of this. The steps behind it run as if a new
builder with the same constraint stood in the place of that one. -/
theorem build_renews (k : ι → Option Constraint) :
    (∀ (steps : List (Step ι)) (before : List (Made ι)) (m : Made ι) (after : List (Made ι)),
      blockMade steps (runScript steps (.fresh k)).answers = before ++ m :: after →
      ∃ c, k m.target = some c ∧
        (∀ q ∈ m.query, q = String.join (sinceBuild m.target c (before ++ [m]))) ∧
        (m.call.isBuild = true →
          m.value = some (normalize (String.join (sinceBuild m.target c before))))) ∧
    ∀ (i : ι) (c : Constraint), k i = some c → ∀ before after : List (Step ι),
      ∃ r, (runScript (before ++ .call i .build :: after) (.fresh k)).answers =
        (runScript before (.fresh k)).answers ++ .call "" .null (some r) none ::
          (runScript after ((runScript before (.fresh k)).bench.put i (.new c))).answers := by
  constructor
  · intro steps before m after hmade
    have hshows := (runScript_goesOn steps (follows_fresh k)).shows
    rw [hmade] at hshows
    obtain ⟨-, hm, -⟩ := shows_append.1 hshows
    exact hm
  · intro i c hc before after
    have hrun := runScript_goesOn before (follows_fresh k)
    obtain ⟨b, hb, rfl⟩ := hrun.follows.exists_builder hc
    refine ⟨normalize b.query, ?_⟩
    rw [runScript_append, runScript, Step.run_call hb]
    rfl

/-- What a group appends before it fails is dropped by a build behind it, and what it appends behind
a build of its own is kept for the next. -/
theorem build_renews_group :
    (∃ r, (runScript ([.group () [.call () (.connect .and),
          .call () (.compare .equal "c" (.text "1"))]] ++ .call () .build ::
            [.call () (.compare .like "a" (.text "2"))])
          (.fresh fun _ => some (.ofNames ["a"]))).answers =
        (runScript [.group () [.call () (.connect .and),
          .call () (.compare .equal "c" (.text "1"))]]
            (.fresh fun _ => some (.ofNames ["a"]))).answers ++ .call "" .null (some r) none ::
          (runScript [.call () (.compare .like "a" (.text "2"))]
            (.fresh fun _ => some (.ofNames ["a"]))).answers) ∧
      ∃ r, (runScript [.group () [.call () .build, .call () (.connect .or)], .call () .build]
        (.fresh fun _ => some .free)).answers.getLast? = some (.call "" .null r none) ∧
          r = some (normalize " || )") := by
  constructor
  · obtain ⟨r, hr⟩ := (build_renews fun _ => some (.ofNames ["a"])).2 () _ rfl
      [.group () [.call () (.connect .and), .call () (.compare .equal "c" (.text "1"))]]
      [.call () (.compare .like "a" (.text "2"))]
    have hput : ∀ (s : Bench Unit) (c : Constraint), s.put () (.new c) = .fresh fun _ => some c :=
      fun _ _ => funext fun _ => rfl
    rw [hput] at hr
    exact ⟨r, hr⟩
  · obtain ⟨c, hc, -, hvalue⟩ := (build_renews fun _ => some .free).1
      [.group () [.call () .build, .call () (.connect .or)], .call () .build]
      [⟨(), .openBracket, none, none⟩, ⟨(), .build, some "", some (normalize "(")⟩,
        ⟨(), .connect .or, some " || ", none⟩, ⟨(), .closeBracket, some " || )", none⟩]
      ⟨(), .build, some "", some (normalize " || )")⟩ [] rfl
    cases hc
    exact ⟨_, rfl, hvalue rfl⟩

end RecordFilter
