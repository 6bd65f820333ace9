import Mathlib.Data.List.Basic
import RecordFilter.Condition

/-!
# Values that cannot be written out

A value has a text unless there is an integer of more than 4300 digits in it, however deep. Nothing
else keeps it from being shown, from being written as a literal or from being a part of a condition.

## Main statements

* `Value.quoted?_eq_none_iff`: the values that cannot be shown.
* `Condition.write_eq_error_iff`: the conditions that cannot be written.
-/

namespace RecordFilter

open Number (digitLimit integer?)

/-- There is an integer in the value that has too many digits to be written out. -/
inductive Value.HoldsLong : Value → Prop
  | int {n : Int} (h : Nat.pow 10 digitLimit ≤ n.natAbs) : HoldsLong (int n)
  | list {vs : List Value} {v : Value} (hv : v ∈ vs) (h : HoldsLong v) : HoldsLong (list vs)
  | tuple {vs : List Value} {v : Value} (hv : v ∈ vs) (h : HoldsLong v) : HoldsLong (tuple vs)
  | mapping {entries : List (String × Value)} {k : String} {v : Value} (hv : (k, v) ∈ entries)
      (h : HoldsLong v) : HoldsLong (mapping entries)

namespace Value

theorem integer?_eq_none_iff {n : Int} :
    integer? n = none ↔ Nat.pow 10 digitLimit ≤ n.natAbs := by
  rw [← Option.isNone_iff_eq_none, ← Option.not_isSome, Number.isSome_integer?]
  simp

theorem holdsLong_int {n : Int} : (int n).HoldsLong ↔ Nat.pow 10 digitLimit ≤ n.natAbs :=
  ⟨fun | .int h => h, .int⟩

/-- The smallest integer that cannot be written out. -/
theorem holdsLong_limit : (int (Nat.pow 10 digitLimit : Nat)).HoldsLong :=
  .int (Nat.le_of_eq (Int.natAbs_natCast (Nat.pow 10 digitLimit)).symm)

theorem holdsLong_list {vs : List Value} : (list vs).HoldsLong ↔ ∃ v ∈ vs, v.HoldsLong :=
  ⟨fun | .list hv h => ⟨_, hv, h⟩, fun ⟨_, hv, h⟩ => .list hv h⟩

theorem holdsLong_tuple {vs : List Value} : (tuple vs).HoldsLong ↔ ∃ v ∈ vs, v.HoldsLong :=
  ⟨fun | .tuple hv h => ⟨_, hv, h⟩, fun ⟨_, hv, h⟩ => .tuple hv h⟩

theorem holdsLong_mapping {entries : List (String × Value)} :
    (mapping entries).HoldsLong ↔ ∃ e ∈ entries, e.2.HoldsLong :=
  ⟨fun | .mapping hv h => ⟨_, hv, h⟩, fun ⟨_, hv, h⟩ => .mapping hv h⟩

mutual

/-- A value cannot be shown if and only if it holds an integer that is too long. -/
theorem quoted?_eq_none_iff (v : Value) : v.quoted? = none ↔ v.HoldsLong := by
  match v with
  | null | bool _ | float _ | text _ | bytes _ | date _ | moment _ =>
    exact ⟨fun h => (Option.some_ne_none _ h).elim, nofun⟩
  | int n => rw [quoted?, integer?_eq_none_iff, holdsLong_int]
  | list vs =>
    rw [holdsLong_list, ← quotedAll?_eq_none_iff vs]
    cases h : quotedAll? vs <;> simp [quoted?, h]
  | tuple vs =>
    rw [holdsLong_tuple, ← quotedAll?_eq_none_iff vs]
    cases h : quotedAll? vs <;> simp [quoted?, h]
  | mapping entries =>
    rw [holdsLong_mapping, ← quotedEntries?_eq_none_iff entries]
    cases h : quotedEntries? entries <;> simp [quoted?, h]

theorem quotedAll?_eq_none_iff (vs : List Value) :
    quotedAll? vs = none ↔ ∃ v ∈ vs, v.HoldsLong := by
  match vs with
  | [] => simp [quotedAll?]
  | v :: vs =>
    rw [List.exists_mem_cons_iff, ← quoted?_eq_none_iff v, ← quotedAll?_eq_none_iff vs]
    cases h : v.quoted? <;> cases h' : quotedAll? vs <;> simp [quotedAll?, h, h']

theorem quotedEntries?_eq_none_iff (entries : List (String × Value)) :
    quotedEntries? entries = none ↔ ∃ e ∈ entries, e.2.HoldsLong := by
  match entries with
  | [] => simp [quotedEntries?]
  | (k, v) :: entries =>
    rw [List.exists_mem_cons_iff, ← quoted?_eq_none_iff v, ← quotedEntries?_eq_none_iff entries]
    cases h : v.quoted? <;> cases h' : quotedEntries? entries <;> simp [quotedEntries?, h, h']

end

/-- A value has a literal if and only if it can be shown. -/
theorem literal?_eq_none_iff (v : Value) : v.literal? = none ↔ v.HoldsLong := by
  rw [← quoted?_eq_none_iff]
  cases v <;> simp [literal?, plain?, quoted?]

/-- What holds a long integer is not absent. -/
theorem HoldsLong.isPresent {v : Value} (h : v.HoldsLong) : v.isPresent = true := by
  cases h <;> rfl

end Value

/-- Writing a condition fails for one reason only, a long integer in its value. -/
theorem Condition.write_eq_error_iff {c : Condition} {e : FilterError} :
    c.write = .error e ↔ c.value.HoldsLong ∧ e = .integerTooLong := by
  rw [← Value.literal?_eq_none_iff]
  constructor
  · intro h
    unfold write at h
    split at h
    · split at h
      · cases h
      · next hlit =>
        cases h
        exact ⟨hlit, rfl⟩
    · cases h
  · rintro ⟨hlit, rfl⟩
    have hpresent : c.isPresent = true := ((Value.literal?_eq_none_iff _).1 hlit).isPresent
    simp [write, hpresent, hlit]

end RecordFilter
