import RecordFilter.Value

/-!
# Walks over sets

A set keeps its members in a table of slots, and a walk over the set meets them slot by slot. A
member has a code, whose last bits say at which slot the search for a free one starts; the search
tries a row of slots from there and then goes on at a place that further bits of the code choose. A
table that has become three fifths full gives way to a larger one, into which its members move in
the order of their slots.

Numbers have codes, equal ones the same, and so have tuples of them. What a list or a mapping holds
may change, so it can be no member. The codes of the other members are drawn anew in every run of a
program, so a walk may meet them anywhere; the one that is followed here meets them last.
-/

namespace RecordFilter

open Number (Binary64)

namespace Value

/-- The kind of the first value in here that can be no member of a set. -/
def unfitKind? : Value → Option String
  | list _ => some (kindName (list []))
  | mapping _ => some (kindName (mapping []))
  | tuple vs => unfitKindIn? vs
  | _ => none
where
  unfitKindIn? : List Value → Option String
    | [] => none
    | v :: vs => v.unfitKind? <|> unfitKindIn? vs

/-- Codes of numbers are remainders by this prime. -/
def codeModulus : Nat := Nat.pow 2 61 - 1

/-- A code with its sign, which is never minus one. -/
def signedCode (negative : Bool) (n : Nat) : UInt64 :=
  if negative then if n = 1 then 0 - 2 else 0 - n.toUInt64 else n.toUInt64

/-- The code of `m · 2 ^ q` up to sign. The powers of two repeat with a period of 61. -/
def fractionCode (negative : Bool) (m : Nat) (q : Int) : UInt64 :=
  signedCode negative (m * Nat.pow 2 (q % 61).toNat % codeModulus)

def floatCode? (x : Binary64) : Option UInt64 :=
  match x.kind with
  | .nan => none
  | .infinite negative => some (signedCode negative 314159)
  | .finite negative m q _ => some (fractionCode negative m q)

/-- Mix the code of one member of a tuple into that of those before it. -/
def mixCode (code member : UInt64) : UInt64 :=
  let mixed := code + member * 14029467366897019727
  (mixed <<< 31 ||| mixed >>> 33) * 11400714785074694791

/-- The code of a tuple, from what its members were mixed to and their number. -/
def tupleCode (mixed : UInt64) (count : Nat) : UInt64 :=
  let code := mixed + (count.toUInt64 ^^^ 2870177450012600261 ^^^ 3527539)
  if code = 0 - 1 then 1546275796 else code

/-- The code that says where a set looks for room for a value. -/
def code? : Value → Option UInt64
  | bool b => some (fractionCode false b.toNat 0)
  | int n => some (fractionCode (n < 0) n.natAbs 0)
  | float x => floatCode? x
  | tuple vs => (mixedCode? 2870177450012600261 vs).map fun mixed => tupleCode mixed vs.length
  | _ => none
where
  /-- Mix the codes of values into one. -/
  mixedCode? : UInt64 → List Value → Option UInt64
    | mixed, [] => some mixed
    | mixed, v :: vs => do mixedCode? (mixCode mixed (← v.code?)) vs

/-- A number as a numerator and the power of two below it, which is zero for a whole one. -/
def number? : Value → Option (Int × Nat)
  | bool b => some (b.toNat, 0)
  | int n => some (n, 0)
  | float x =>
    match x.kind with
    | .finite negative m q _ =>
      let scaled := m * Nat.pow 2 q.toNat
      let below := Nat.pow 2 (-q).toNat
      let sign : Int := if negative then -1 else 1
      if scaled % below = 0 then some (sign * (scaled / below : Nat), 0) else some (sign * m, (-q).toNat)
    | _ => none
  | _ => none

/-- Are two values one member of a set? -/
def isSameMember (v w : Value) : Bool :=
  match v.code?, w.code? with
  | some c, some d => c == d && v.number? == w.number?
  | none, none => v.quoted? == w.quoted?
  | _, _ => false

end Value

/-- The slots of a table, and how many members it has, with those that the slots do not show. -/
structure SlotTable where
  slots : Array (Option Value)
  count : Nat

namespace SlotTable

def ofSize (size : Nat) : SlotTable := ⟨Array.replicate size none, 0⟩

/-- The size of a table without members. -/
def smallest : Nat := 8

/-- How many slots in a row a search tries after the one that it comes to. -/
def rowLength : Nat := 9

/-- The free slot that a search finds from slot `i` on, where `code` holds what is left of the code.
-/
def freeSlot? (t : SlotTable) : Nat → Nat → Nat → Option Nat
  | 0, _, _ => none
  | rounds + 1, i, code =>
    let row := if i + rowLength < t.slots.size then List.range' i (rowLength + 1) else [i]
    match row.find? fun j => t.slots[j]?.any Option.isNone with
    | some j => some j
    | none => t.freeSlot? rounds ((5 * i + 1 + code / 32) % t.slots.size) (code / 32)

/-- Put a member into its slot. After thirteen rounds the code is used up, and the search meets
every slot. -/
def place (t : SlotTable) (v : Value) : SlotTable :=
  let slot? := do
    let code ← v.code?
    t.freeSlot? (t.slots.size + 13) (code.toNat % t.slots.size) code.toNat
  ⟨(slot?.map fun j => t.slots.setIfInBounds j (some v)).getD t.slots, t.count + 1⟩

/-- The members in the slots, in the order of the slots. -/
def members (t : SlotTable) : List Value := t.slots.toList.filterMap id

/-- The smallest size of a table that is larger than `n`. -/
def sizeAbove (n : Nat) : Nat := max smallest (Nat.pow 2 (n.log2 + 1))

/-- A table of four times the room that its members need, once three fifths are taken. -/
def grown (t : SlotTable) : SlotTable :=
  if 5 * t.count < 3 * (t.slots.size - 1) then t
  else ⟨(t.members.foldl place (ofSize (sizeAbove (4 * t.count)))).slots, t.count⟩

def insert (t : SlotTable) (v : Value) : SlotTable := (t.place v).grown

end SlotTable

/-- The values, each member of a set once. -/
def distinctMembers (vs : List Value) : List Value :=
  vs.foldl (fun found v => if found.any v.isSameMember then found else found ++ [v]) []

/-- The members of a set in the order in which a walk meets them, if it meets those whose codes are
drawn last. -/
def setWalk (vs : List Value) : List Value :=
  let members := distinctMembers vs
  (members.foldl SlotTable.insert (SlotTable.ofSize SlotTable.smallest)).members ++
    members.filter (·.code?.isNone)

end RecordFilter
