/-!
# Numerals

Small helpers that write numbers: a number in at least a given width, a sign in front, and integers
under a limit on their length. Writing out an integer takes time that grows with the square of its
length, so one with more than 4300 digits is refused.
-/

namespace RecordFilter.Number

/-- The decimal digits of `n`, with zeros in front up to the given width. -/
def padded (width n : Nat) : String :=
  let ds := Nat.toDigits 10 n
  String.ofList (List.replicate (width - ds.length) '0' ++ ds)

/-- The most digits that an integer may have to be written out. -/
def digitLimit : Nat := 4300

/-- The integer in decimal, unless it has too many digits. -/
def integer? (n : Int) : Option String :=
  if n.natAbs < Nat.pow 10 digitLimit then some (toString n) else none

/-- Only the size of an integer decides whether it can be written. -/
theorem isSome_integer? (n : Int) :
    (integer? n).isSome = decide (n.natAbs < Nat.pow 10 digitLimit) := by
  unfold integer?
  split <;> simp_all

end RecordFilter.Number
