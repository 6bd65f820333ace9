/-!
# Replacing every occurrence of a pattern

A pattern looks at the front of a text and says what to write in place of the characters it covers.
`replaceAll` walks a text from left to right, replaces the first occurrence it meets and goes on
behind it, so occurrences never overlap and what was written is not looked at again.

`replaceAll_cons_none` and `replaceAll_cons_some` are the two steps of the walk, and
`replaceAll_eq_self` says that a text without an occurrence stays as it is.
-/

namespace RecordFilter.Text

/-- An occurrence at the front of a text: what to write in its place, and the text behind it. -/
structure Occurrence where
  new : List Char
  rest : List Char
  deriving DecidableEq, Repr

/-- What a text starts with, if it is something to be replaced. -/
abbrev Pattern := List Char → Option Occurrence

/-- The walk, with the number of characters of the last occurrence still to be passed over. -/
def replaceFrom (p : Pattern) : Nat → List Char → List Char
  | _, [] => []
  | k + 1, _ :: s => replaceFrom p k s
  | 0, c :: s =>
    match p (c :: s) with
    | some o => o.new ++ replaceFrom p (s.length - o.rest.length) s
    | none => c :: replaceFrom p 0 s

/-- Write the replacement for every occurrence of `p`, from left to right. -/
def replaceAll (p : Pattern) (s : List Char) : List Char := replaceFrom p 0 s

/-- No part of `s` starts with an occurrence of `p`. -/
def Absent (p : Pattern) (s : List Char) : Prop := ∀ t, t ≠ [] → t <:+ s → p t = none

theorem replaceFrom_eq_drop (p : Pattern) (k : Nat) (s : List Char) :
    replaceFrom p k s = replaceAll p (s.drop k) := by
  induction s generalizing k with
  | nil => cases k <;> simp [replaceAll, replaceFrom]
  | cons c s ih =>
    cases k with
    | zero => rfl
    | succ k => simpa [replaceFrom] using ih k

@[simp] theorem replaceAll_nil (p : Pattern) : replaceAll p [] = [] := rfl

/-- Where no occurrence starts, the character stays and the walk goes on. -/
theorem replaceAll_cons_none {p : Pattern} {c : Char} {s : List Char} (h : p (c :: s) = none) :
    replaceAll p (c :: s) = c :: replaceAll p s := by
  simp [replaceAll, replaceFrom, h]

/-- An occurrence gives way to its replacement, and the walk goes on behind it. -/
theorem replaceAll_cons_some {p : Pattern} {c : Char} {s : List Char} {o : Occurrence}
    (h : p (c :: s) = some o) (hs : o.rest <:+ s) :
    replaceAll p (c :: s) = o.new ++ replaceAll p o.rest := by
  obtain ⟨u, rfl⟩ := hs
  have hk : (u ++ o.rest).length - o.rest.length = u.length := by simp
  have hstep := replaceFrom_eq_drop p u.length (u ++ o.rest)
  simp only [List.drop_left] at hstep
  simp only [replaceAll, replaceFrom, h, hk, hstep]

/-- A text without an occurrence stays as it is. -/
theorem replaceAll_eq_self {p : Pattern} {s : List Char} (h : Absent p s) : replaceAll p s = s := by
  induction s with
  | nil => rfl
  | cons c s ih =>
    rw [replaceAll_cons_none (h _ (by simp) (List.suffix_refl _)),
      ih fun t ht hs => h t ht (hs.trans (List.suffix_cons c s))]

end RecordFilter.Text
