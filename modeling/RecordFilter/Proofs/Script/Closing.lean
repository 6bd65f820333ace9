import RecordFilter.Proofs.Script.Trace

/-!
# Groups and errors

A group closes its bracket on every way out. Whichever of the steps in it fail, and however deep,
the group leaves what was there before, an opening bracket, what the steps that were run have
appended, and a closing bracket; a group inside does the same in its place. The first step that
fails is the last one that is run, and its error is that of every group around it.

## Main statements

* `Call.error_run`: whether a call fails depends on the constraint of the builder alone.
* `Step.leaves_run`, `runBlock_leaves`: what a step leaves, and what the steps of a group leave.
* `group_closes`: both, for a group.
-/

namespace RecordFilter

/-- The error that the call ends with on a builder with this constraint, if it does. -/
def Call.error? (k : Constraint) (c : Call) : Option FilterError := (c.run (.new k)).error

theorem Builder.error_compare_new (b : Builder) (op : Operator) (field : String) (v : Value) :
    (b.compare op field v).error = ((new b.constraint).compare op field v).error := by
  unfold compare
  simp only [new]
  split
  · rfl
  · split <;> rfl

/-- What the builder holds has no part in whether a call fails. -/
theorem Call.error_run (c : Call) (b : Builder) : (c.run b).error = c.error? b.constraint := by
  cases c with
  | compare op field v => exact b.error_compare_new op field v
  | compareBy symbol field v =>
    simp only [error?, run]
    split
    · rfl
    · exact b.error_compare_new _ field v
  | anyOf field values =>
    simp only [error?, run, Builder.anyOf, Builder.new]
    split
    · rfl
    · split
      · rfl
      · split <;> rfl
  | connect _ | openBracket | closeBracket | custom _ => rfl
  | read | inspect | build => simp only [error?, run, Outcome.returned]

section
variable {ι : Type}

mutual

/-- The step is a call on this builder, not one that builds, or a group of such steps on it. -/
def Step.Collects (i : ι) : Step ι → Prop
  | .call j c => j = i ∧ c.isBuild = false
  | .group j body => j = i ∧ BlockCollects i body

def BlockCollects (i : ι) : List (Step ι) → Prop
  | [] => True
  | step :: steps => step.Collects i ∧ BlockCollects i steps

end

mutual

/-- What the step has appended, by its answer: a group its brackets, around what the steps in it
that were run have appended. -/
def Step.written (k : Constraint) : Step ι → Answer → List String
  | .call _ c, .call .. => c.fragments k
  | .group _ body, .group _ _ _ inner => "(" :: (blockWritten k body inner ++ [")"])
  | _, _ => []

def blockWritten (k : Constraint) : List (Step ι) → List Answer → List String
  | step :: steps, answer :: answers => step.written k answer ++ blockWritten k steps answers
  | _, _ => []

end

/-- The answers of a row of steps end with the first error, and the row ends with that error. If
there is none, every step has an answer. -/
structure EndsAtError (count : Nat) (answers : List Answer) (e : Option FilterError) : Prop where
  before : ∀ a ∈ answers.dropLast, a.error = none
  last : e = answers.getLast?.bind Answer.error
  complete : e = none → answers.length = count

mutual

/-- The answer is one that the step can give: a call reports the error that it fails with, and a
group that of the first step in it that fails, which is the last one in it that was run. -/
def Step.AnsweredBy (k : Constraint) : Step ι → Answer → Prop
  | .call _ c, .call _ _ _ e => e = c.error? k
  | .group _ body, .group _ _ e inner =>
    BlockAnsweredBy k body inner ∧ EndsAtError body.length inner e
  | _, _ => False

/-- The answers are those of the steps in their places, from the first one on. -/
def BlockAnsweredBy (k : Constraint) : List (Step ι) → List Answer → Prop
  | _, [] => True
  | step :: steps, answer :: answers => step.AnsweredBy k answer ∧ BlockAnsweredBy k steps answers
  | [], _ :: _ => False

end

end

@[simp] theorem blockWritten_nil {ι : Type} (k : Constraint) (steps : List (Step ι)) :
    blockWritten k steps [] = [] := by
  cases steps <;> rfl

@[simp] theorem blockAnsweredBy_nil {ι : Type} (k : Constraint) (steps : List (Step ι)) :
    BlockAnsweredBy k steps [] := by
  cases steps <;> trivial

theorem EndsAtError.nil : EndsAtError 0 [] none := ⟨by simp, rfl, fun _ => rfl⟩

theorem EndsAtError.failed {a : Answer} {e : FilterError} (h : a.error = some e) (count : Nat) :
    EndsAtError (count + 1) [a] (some e) :=
  ⟨by simp, by simp [h], nofun⟩

theorem EndsAtError.cons {a : Answer} {count : Nat} {answers : List Answer}
    {e : Option FilterError} (ha : a.error = none) (h : EndsAtError count answers e) :
    EndsAtError (count + 1) (a :: answers) e := by
  obtain ⟨hbefore, hlast, hcomplete⟩ := h
  cases answers with
  | nil =>
    refine ⟨by simp, by simp [hlast, ha], fun he => ?_⟩
    simp [← hcomplete he]
  | cons a' answers =>
    refine ⟨?_, by simpa using hlast, fun he => congrArg Nat.succ (hcomplete he)⟩
    intro x hx
    rw [List.dropLast_cons_cons, List.mem_cons] at hx
    rcases hx with rfl | hx
    · exact ha
    · exact hbefore x hx

variable {ι : Type} [DecidableEq ι]

/-- The builder of that name holds the fragments behind those that it held before. -/
def Leaves (s' : Bench ι) (i : ι) (b : Builder) (ws : List String) : Prop :=
  ∃ b', s' i = some b' ∧ b'.constraint = b.constraint ∧ b'.fragments = b.fragments ++ ws

/-- A group leaves, in brackets, what the steps in it leave, and shows it. -/
theorem Leaves.group {i : ι} {body : List (Step ι)} {s : Bench ι} {b : Builder} (hb : s i = some b)
    {ws : List String}
    (h : Leaves (runBlock body (s.put i b.openBracket)).bench i b.openBracket ws) :
    Leaves ((Step.group i body).run s).bench i b ("(" :: (ws ++ [")"])) ∧
      ∃ last, ((Step.group i body).run s).answer =
        .group (b.query ++ "(" ++ String.join ws ++ ")") last
          (runBlock body (s.put i b.openBracket)).error
          (runBlock body (s.put i b.openBracket)).answers := by
  obtain ⟨b', hb', hconstraint, hfragments⟩ := h
  have hclosed : b'.closeBracket.fragments = b.fragments ++ "(" :: (ws ++ [")"]) := by
    simp [Builder.closeBracket, Builder.append, hfragments, Builder.openBracket]
  have hquery : b'.closeBracket.query = b.query ++ "(" ++ String.join ws ++ ")" := by
    simp [Builder.query, hclosed, String.join_append, String.append_assoc]
  rw [Step.run_group hb hb', hquery]
  exact ⟨⟨_, Bench.put_self _ _ _, hconstraint, hclosed⟩, _, rfl⟩

mutual

/-- A step leaves what it has written. -/
theorem Step.leaves_run {i : ι} {step : Step ι} (h : step.Collects i) {s : Bench ι} {b : Builder}
    (hb : s i = some b) :
    Leaves (step.run s).bench i b (step.written b.constraint (step.run s).answer) ∧
      step.AnsweredBy b.constraint (step.run s).answer := by
  match step with
  | .call j c =>
    obtain ⟨rfl, hbuild⟩ := h
    obtain ⟨hconstraint, hfragments⟩ := c.takes_run b
    rw [Step.run_call hb]
    refine ⟨⟨_, Bench.put_self s _ _, hconstraint, ?_⟩, c.error_run b⟩
    simpa [hbuild, Step.written] using hfragments
  | .group j body =>
    obtain ⟨rfl, hbody⟩ := h
    obtain ⟨hleaves, hanswers, hends⟩ := runBlock_leaves hbody (Bench.put_self s _ b.openBracket)
    obtain ⟨hgroup, last, hanswer⟩ := hleaves.group hb
    rw [hanswer]
    exact ⟨hgroup, hanswers, hends⟩

/-- The steps of a group leave what those that were run have written. -/
theorem runBlock_leaves {i : ι} {steps : List (Step ι)} (h : BlockCollects i steps) {s : Bench ι}
    {b : Builder} (hb : s i = some b) :
    Leaves (runBlock steps s).bench i b
        (blockWritten b.constraint steps (runBlock steps s).answers) ∧
      BlockAnsweredBy b.constraint steps (runBlock steps s).answers ∧
      EndsAtError steps.length (runBlock steps s).answers (runBlock steps s).error := by
  match steps with
  | [] => exact ⟨⟨b, hb, rfl, (List.append_nil _).symm⟩, trivial, .nil⟩
  | step :: steps =>
    obtain ⟨⟨b', hb', hconstraint, hfragments⟩, hanswer⟩ := Step.leaves_run h.1 hb
    cases herror : (step.run s).answer.error with
    | some e =>
      -- the steps behind it were not run
      simp only [runBlock, herror]
      refine ⟨⟨b', hb', hconstraint, ?_⟩, ⟨hanswer, by simp⟩, .failed herror _⟩
      simpa [blockWritten] using hfragments
    | none =>
      obtain ⟨⟨b'', hb'', hconstraint', hfragments'⟩, hanswers, hends⟩ := runBlock_leaves h.2 hb'
      rw [hconstraint] at hconstraint' hfragments' hanswers
      simp only [runBlock, herror]
      refine ⟨⟨b'', hb'', hconstraint', ?_⟩, ⟨hanswer, hanswers⟩, hends.cons herror⟩
      simp [blockWritten, hfragments', hfragments]

end

/-- However the steps of a group end, the group adds to the filter an opening bracket, what the
steps that were run have appended, and a closing bracket. The first step in it that fails is the
last one that is run, and its error is that of the group. -/
theorem group_closes {i : ι} {body : List (Step ι)} (h : BlockCollects i body) {s : Bench ι}
    {b : Builder} (hb : s i = some b) :
    ∃ last e inner, ((Step.group i body).run s).answer =
        .group (b.query ++ "(" ++ String.join (blockWritten b.constraint body inner) ++ ")")
          last e inner ∧
      Leaves ((Step.group i body).run s).bench i b
        ("(" :: (blockWritten b.constraint body inner ++ [")"])) ∧
      BlockAnsweredBy b.constraint body inner ∧ EndsAtError body.length inner e := by
  obtain ⟨hleaves, hanswers, hends⟩ := runBlock_leaves h (Bench.put_self s i b.openBracket)
  obtain ⟨hgroup, last, hanswer⟩ := hleaves.group hb
  exact ⟨last, _, _, hanswer, hgroup, hanswers, hends⟩

/-- A call in a group inside fails, behind a connective and in front of another one. Both brackets
are closed, and neither the connective behind the call nor the one behind the group is written. -/
theorem group_closes_nested :
    ((Step.group () [.call () (.compare .like "a" (.text "1")),
        .group () [.call () (.connect .or), .call () (.anyOf "b" (.int 7)),
          .call () (.connect .and)], .call () (.connect .and)]).run
        (fun _ => some (.new .free))).answer =
      .group "(a~\"1\"( || ))" .null (some (.notIterable "int"))
        [.call "(a~\"1\"" (.text "1") none none,
          .group "(a~\"1\"( || )" .null (some (.notIterable "int"))
            [.call "(a~\"1\"( || " .null none none,
              .call "(a~\"1\"( || " .null none (some (.notIterable "int"))]] ∧
    Leaves ((Step.group () [.call () (.compare .like "a" (.text "1")),
        .group () [.call () (.connect .or), .call () (.anyOf "b" (.int 7)),
          .call () (.connect .and)], .call () (.connect .and)]).run
        (fun _ => some (.new .free))).bench () (.new .free)
      ["(", "a~\"1\"", "(", " || ", ")", ")"] := by
  have hbody : BlockCollects () [.call () (.compare .like "a" (.text "1")),
      .group () [.call () (.connect .or), .call () (.anyOf "b" (.int 7)),
        .call () (.connect .and)], .call () (.connect .and)] :=
    ⟨⟨rfl, rfl⟩, ⟨rfl, ⟨rfl, rfl⟩, ⟨rfl, rfl⟩, ⟨rfl, rfl⟩, trivial⟩, ⟨rfl, rfl⟩, trivial⟩
  obtain ⟨last, e, inner, hanswer, hleaves, -⟩ :=
    group_closes hbody (s := fun _ => some (.new .free)) rfl
  refine (fun hrun => ⟨hrun, ?_⟩) rfl
  obtain ⟨-, rfl, rfl, rfl⟩ := Answer.group.inj (hanswer.symm.trans hrun)
  exact hleaves

end RecordFilter
