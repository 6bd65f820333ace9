/-!
# Character classes as sorted ranges

A character class is written down as its maximal runs of code points, in increasing order.
Membership walks the runs and stops at the first one that starts above the character, so a character
near the front of a table is decided after a few comparisons.
-/

namespace RecordFilter.Text

/-- A character class: inclusive runs of code points, in increasing order. -/
abbrev CharClass := List (Nat × Nat)

namespace CharClass

/-- Does the code point `n` lie in one of the runs? -/
def holds : CharClass → Nat → Bool
  | [], _ => false
  | (lo, hi) :: rest, n => if n < lo then false else if n ≤ hi then true else holds rest n

/-- The first code point of the run that holds `n`, if there is one. -/
def start? : CharClass → Nat → Option Nat
  | [], _ => none
  | (lo, hi) :: rest, n => if n < lo then none else if n ≤ hi then some lo else start? rest n

/-- A code point lies in a class exactly when one of the runs starts the part that holds it. -/
theorem isSome_start? (t : CharClass) (n : Nat) : (t.start? n).isSome = t.holds n := by
  induction t with
  | nil => rfl
  | cons run rest ih =>
    unfold start? holds
    split
    · rfl
    · split
      · rfl
      · exact ih

end CharClass

end RecordFilter.Text
