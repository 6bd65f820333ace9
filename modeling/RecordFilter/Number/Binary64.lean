import RecordFilter.Number.Numeral

/-!
# Binary floating point numbers as text

A number in the 64 bit binary format is given by its bits. A finite one is `m · 2 ^ q` up to sign,
and every real between the midpoints to its two neighbours reads back as it; the midpoints
themselves do if `m` is even. The text of a number has the fewest digits that read back, which are
the digits of a multiple of the coarsest power of ten with a multiple in that interval; of two such
multiples the nearer is taken, and an even one if both are equally near.
-/

namespace RecordFilter.Number

/-- A number in the 64 bit binary format, by its bits. -/
structure Binary64 where
  bits : UInt64
  deriving DecidableEq, Repr

namespace Binary64

/-- What the bits mean; `finite negative m q narrow` is `m · 2 ^ q` up to sign, and `narrow` says
that the neighbour below is only half as far away as the one above. -/
inductive Kind
  | nan
  | infinite (negative : Bool)
  | finite (negative : Bool) (m : Nat) (q : Int) (narrow : Bool)
  deriving DecidableEq, Repr

def kind (x : Binary64) : Kind :=
  let n := x.bits.toNat
  let negative := n / Nat.pow 2 63 = 1
  let e := n / Nat.pow 2 52 % Nat.pow 2 11
  let f := n % Nat.pow 2 52
  if e = Nat.pow 2 11 - 1 then if f = 0 then .infinite negative else .nan
  else if e = 0 then .finite negative f (-1074) false
  else .finite negative (Nat.pow 2 52 + f) ((e : Int) - 1075) (f = 0 && e != 1)

/-- The multiple `d · 10 ^ p` nearest to `mid · 2 ^ q` between `lo · 2 ^ q` and `hi · 2 ^ q`, whose
ends count if `closed`. -/
def multipleBetween? (lo mid hi : Nat) (closed : Bool) (q p : Int) : Option Nat :=
  let unit := Nat.pow 2 q.toNat * Nat.pow 10 (-p).toNat
  let grid := Nat.pow 2 (-q).toNat * Nat.pow 10 p.toNat
  let lies (d : Nat) : Bool :=
    if closed then lo * unit ≤ d * grid && d * grid ≤ hi * unit
    else lo * unit < d * grid && d * grid < hi * unit
  let below := mid * unit / grid
  let rest := mid * unit % grid
  let nearest := if 2 * rest < grid || (2 * rest = grid && below % 2 = 0) then below else below + 1
  let other := if nearest = below then below + 1 else below
  if lies nearest then some nearest else if lies other then some other else none

/-- The coarsest power of ten from `10 ^ p` down with a multiple between the ends, and its multiple.
-/
def coarsestMultiple (lo mid hi : Nat) (closed : Bool) (q : Int) : Nat → Int → Nat × Int
  | 0, p => (mid, p)
  | fuel + 1, p =>
    match multipleBetween? lo mid hi closed q p with
    | some d => (d, p)
    | none => coarsestMultiple lo mid hi closed q fuel (p - 1)

/-- The fewest digits that read back as `m · 2 ^ q`, and the power of ten that they count. -/
def shortest (m : Nat) (q : Int) (narrow : Bool) : Nat × Int :=
  coarsestMultiple (if narrow then 4 * m - 1 else 4 * m - 2) (4 * m) (4 * m + 2) (m % 2 = 0) (q - 2)
    700 309

/-- Where a number is written without an exponent, by the power of ten of its first digit, and how
many digits an exponent has at least. -/
structure Notation where
  lowest : Int
  highest : Int
  exponentWidth : Nat

/-- Numbers are written without an exponent from a ten thousandth up to below 10 ^ 16. -/
def plain : Notation := ⟨-4, 15, 2⟩

/-- The digits `d` counting `10 ^ p`, in the given notation. -/
def layout (style : Notation) (d : Nat) (p : Int) : String :=
  let ds := Nat.toDigits 10 d
  let e := p + ds.length - 1
  let text :=
    if style.lowest ≤ e ∧ e ≤ style.highest then
      if e < 0 then '0' :: '.' :: List.replicate (-e - 1).toNat '0' ++ ds
      else
        let whole := e.toNat + 1
        if ds.length ≤ whole then ds ++ List.replicate (whole - ds.length) '0' ++ ['.', '0']
        else ds.take whole ++ '.' :: ds.drop whole
    else
      ds.take 1 ++ (if ds.length = 1 then [] else '.' :: ds.drop 1) ++
        ('e' :: (if e < 0 then '-' else '+') :: (padded style.exponentWidth e.natAbs).toList)
  String.ofList text

/-- The shortest text that reads back as the number. -/
def text (x : Binary64) : String :=
  let signed (negative : Bool) (s : String) := if negative then "-" ++ s else s
  match x.kind with
  | .nan => "nan"
  | .infinite negative => signed negative "inf"
  | .finite negative 0 _ _ => signed negative "0.0"
  | .finite negative m q narrow =>
    let (d, p) := shortest m q narrow
    signed negative (layout plain d p)

/-- The number that is `m · 10 ^ e` rounded to the nearest; what is out of range becomes zero or
infinite. -/
def ofDecimal (negative : Bool) (m : Nat) (e : Int) : Binary64 :=
  let top := e + (Nat.toDigits 10 m).length
  let x : Float :=
    if m = 0 ∨ top < -400 then 0.0
    else if 400 < top then 1.0 / 0.0
    else if e < 0 then Float.ofScientific m true e.natAbs
    else Float.ofScientific m false e.natAbs
  ⟨(if negative then -x else x).toBits⟩

/-- The number that a row of digits writes. -/
def readDigits? (ds : List Char) : Option Nat :=
  if ds.all Char.isDigit then some (ds.foldl (fun n c => 10 * n + (c.toNat - 48)) 0) else none

/-- Read digits, perhaps with a point among them and an exponent behind them. -/
def readDecimal? (negative : Bool) (s : List Char) : Option Binary64 := do
  let isMark (c : Char) : Bool := c == 'e' || c == 'E'
  let mantissa := s.takeWhile fun c => !isMark c
  let whole := mantissa.takeWhile (· != '.')
  let part := mantissa.drop (whole.length + 1)
  let m ← if whole.isEmpty && part.isEmpty then none else readDigits? (whole ++ part)
  let e ← match s.drop mantissa.length with
    | [] => some (0 : Int)
    | _ :: '-' :: ds => if ds.isEmpty then none else (readDigits? ds).map fun n => -n
    | _ :: '+' :: ds => if ds.isEmpty then none else (readDigits? ds).map fun n => n
    | _ :: ds => if ds.isEmpty then none else (readDigits? ds).map fun n => n
  return ofDecimal negative m (e - part.length)

/-- Read a number: digits with an optional point and exponent, or the name of one without digits. -/
def read? (s : String) : Option Binary64 :=
  let (negative, body) := match s.toList with
    | '-' :: r => (true, r)
    | '+' :: r => (false, r)
    | r => (false, r)
  match String.ofList body with
  | "nan" => some ⟨0x7ff8000000000000⟩
  | "inf" => some ⟨if negative then 0xfff0000000000000 else 0x7ff0000000000000⟩
  | _ => readDecimal? negative body

end Binary64

end RecordFilter.Number
