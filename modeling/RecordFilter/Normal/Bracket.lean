/-!
# Bracket repair

One walk from left to right with the number of brackets that are open. A closing bracket that has
nothing to close is dropped, and whatever is still open at the end is closed there.
-/

namespace RecordFilter.Normal

/-- Repair a text inside `depth` open brackets. -/
def balanceFrom : Nat → List Char → List Char
  | depth, [] => List.replicate depth ')'
  | depth, c :: s =>
    if c = ')' then
      match depth with
      | 0 => balanceFrom 0 s
      | d + 1 => c :: balanceFrom d s
    else if c = '(' then c :: balanceFrom (depth + 1) s
    else c :: balanceFrom depth s

/-- Drop the closing brackets that close nothing, and close the brackets left open. -/
def balance (s : List Char) : List Char := balanceFrom 0 s

/-- The number of brackets open after a text that starts inside `depth` of them, if no closing
bracket on the way had nothing to close. -/
def depthAfter? : Nat → List Char → Option Nat
  | depth, [] => some depth
  | depth, c :: s =>
    if c = ')' then
      match depth with
      | 0 => none
      | d + 1 => depthAfter? d s
    else if c = '(' then depthAfter? (depth + 1) s
    else depthAfter? depth s

/-- Every bracket is closed by a later one, and every closing bracket closes an earlier one. -/
def Balanced (s : List Char) : Prop := depthAfter? 0 s = some 0

instance (s : List Char) : Decidable (Balanced s) := inferInstanceAs (Decidable (_ = _))

theorem depthAfter?_replicate_close (d : Nat) : depthAfter? d (List.replicate d ')') = some 0 := by
  induction d with
  | zero => rfl
  | succ d ih => simpa [List.replicate_succ, depthAfter?] using ih

theorem depthAfter?_balanceFrom (d : Nat) (s : List Char) :
    depthAfter? d (balanceFrom d s) = some 0 := by
  induction s generalizing d with
  | nil => exact depthAfter?_replicate_close d
  | cons c s ih =>
    by_cases hc : c = ')'
    · cases d with
      | zero => simpa [balanceFrom, hc] using ih 0
      | succ d => simpa [balanceFrom, hc, depthAfter?] using ih d
    · by_cases ho : c = '('
      · simpa [balanceFrom, ho, depthAfter?] using ih (d + 1)
      · simpa [balanceFrom, hc, ho, depthAfter?] using ih d

/-- A repaired text is balanced. -/
theorem balanced_balance (s : List Char) : Balanced (balance s) := depthAfter?_balanceFrom 0 s

end RecordFilter.Normal
