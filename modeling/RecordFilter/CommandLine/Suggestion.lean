/-!
# Suggestions for mistyped words

How alike two words are is measured by the longest run of characters that they share, and then, on
either side of it, by the longest run shared there, and so on. The characters in all these runs,
twice, over the characters of both words, is their likeness; words are suggested from three fifths
on, and never more than the three most alike.
-/

namespace RecordFilter.CommandLine

/-- The number of characters that two words have in common at the front. -/
def commonStart : List Char → List Char → Nat
  | a :: s, b :: t => if a = b then commonStart s t + 1 else 0
  | _, _ => 0

/-- A run of characters that two words share: where it starts in each, and how long it is. -/
structure SharedRun where
  left : Nat
  right : Nat
  size : Nat
  deriving DecidableEq, Repr

/-- The longest run that two words share, the first one in the left word and then in the right. -/
def longestShared (s t : List Char) : SharedRun :=
  let starts := (List.range s.length).flatMap fun i => (List.range t.length).map fun j => (i, j)
  starts.foldl (fun best (i, j) =>
    let size := commonStart (s.drop i) (t.drop j)
    if best.size < size then ⟨i, j, size⟩ else best) ⟨0, 0, 0⟩

/-- The number of characters in the shared runs. -/
def sharedSize : Nat → List Char → List Char → Nat
  | 0, _, _ => 0
  | fuel + 1, s, t =>
    let run := longestShared s t
    if run.size = 0 then 0
    else
      sharedSize fuel (s.take run.left) (t.take run.right) + run.size +
        sharedSize fuel (s.drop (run.left + run.size)) (t.drop (run.right + run.size))

/-- The likeness of two words as a fraction. -/
def likeness (word known : String) : Nat × Nat :=
  (2 * sharedSize known.length known.toList word.toList, known.length + word.length)

/-- Is the first fraction smaller, or equal with the smaller word? -/
def lessAlike (a b : (Nat × Nat) × String) : Bool :=
  a.1.1 * b.1.2 < b.1.1 * a.1.2 || (a.1.1 * b.1.2 == b.1.1 * a.1.2 && decide (a.2 < b.2))

/-- The known words to suggest for a word, in increasing order. -/
def suggestions (known : List String) (word : String) : List String :=
  let rated := (known.map fun k => (likeness word k, k)).filter fun r => 3 * r.1.2 ≤ 5 * r.1.1
  let best := (rated.mergeSort fun a b => !lessAlike a b).take 3
  (best.map Prod.snd).mergeSort fun a b => !decide (b < a)

end RecordFilter.CommandLine
