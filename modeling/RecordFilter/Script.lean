import RecordFilter.Builder

/-!
# Scripts

A script is a row of calls on one or more builders, in which a *group* brackets the steps inside it.
The builders stand on a bench and are told apart by names of any type. A group ends with the first
of its steps that fails; its bracket is closed even then, and the error goes on to the steps around
it. At the top of a script, a failed step does not keep the later ones from running.
-/

namespace RecordFilter

inductive Step (ι : Type)
  | call (target : ι) (c : Call)
  | group (target : ι) (body : List (Step ι))

/-- The builders by name. A name without a builder is one whose construction failed. -/
abbrev Bench (ι : Type) := ι → Option Builder

def Bench.put {ι : Type} [DecidableEq ι] (s : Bench ι) (i : ι) (b : Builder) : Bench ι :=
  fun j => if j = i then some b else s j

/-- What a step answers: the filter and the last value of its builder after it, the text it
returned, the error that ended it and, for a group, the answers of the steps inside that were run.
-/
inductive Answer
  | skipped
  | call (query : String) (last : Value) (value : Option String) (error : Option FilterError)
  | group (query : String) (last : Value) (error : Option FilterError) (inner : List Answer)

def Answer.error : Answer → Option FilterError
  | skipped => none
  | call _ _ _ e => e
  | group _ _ e _ => e

/-- The bench after a step, its answer, and the log records it wrote. -/
structure Ran (ι : Type) where
  bench : Bench ι
  answer : Answer
  log : List LogRecord

/-- The bench after some steps, their answers and log records, and the error that ended them. -/
structure RanBlock (ι : Type) where
  bench : Bench ι
  answers : List Answer
  log : List LogRecord
  error : Option FilterError

variable {ι : Type} [DecidableEq ι]

mutual

def Step.run : Step ι → Bench ι → Ran ι
  | .call i c, s =>
    match s i with
    | none => ⟨s, .skipped, []⟩
    | some b =>
      let o := c.run b
      ⟨s.put i o.builder, .call o.builder.query o.builder.last o.value o.error, o.log⟩
  | .group i body, s =>
    match s i with
    | none => ⟨s, .skipped, []⟩
    | some b =>
      let r := runBlock body (s.put i b.openBracket)
      let b := ((r.bench i).getD b).closeBracket
      ⟨r.bench.put i b, .group b.query b.last r.error r.answers, r.log⟩

/-- Run the steps of a group up to the first one that fails. -/
def runBlock : List (Step ι) → Bench ι → RanBlock ι
  | [], s => ⟨s, [], [], none⟩
  | step :: steps, s =>
    let r := step.run s
    match r.answer.error with
    | some e => ⟨r.bench, [r.answer], r.log, some e⟩
    | none =>
      let rest := runBlock steps r.bench
      ⟨rest.bench, r.answer :: rest.answers, r.log ++ rest.log, rest.error⟩

end

/-- Run the steps at the top of a script, all of them. -/
def runScript : List (Step ι) → Bench ι → RanBlock ι
  | [], s => ⟨s, [], [], none⟩
  | step :: steps, s =>
    let r := step.run s
    let rest := runScript steps r.bench
    ⟨rest.bench, r.answer :: rest.answers, r.log ++ rest.log, none⟩

end RecordFilter
