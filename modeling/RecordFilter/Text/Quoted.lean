import RecordFilter.Text.Printable

/-!
# Quoted text

Text shown between quotes, so that a reader can tell where it ends and which characters it holds.
The quote is an apostrophe, unless the text holds an apostrophe and no double quote. A backslash and
the quote itself are written after a backslash, the three common layout characters by a letter, and
every character that is not printable by its number, in two, four or eight hexadecimal digits.
-/

namespace RecordFilter.Text

/-- The quote to put around a text. -/
def quoteMark (s : List Char) : Char := if '\'' ∈ s ∧ '"' ∉ s then '"' else '\''

/-- The lower case hexadecimal digits of `n`, with zeros in front up to the given width. -/
def hexDigits (width n : Nat) : List Char :=
  let ds := Nat.toDigits 16 n
  List.replicate (width - ds.length) '0' ++ ds

/-- The characters that have a letter of their own after the backslash, and the two that stand for
themselves there. -/
def shortEscape? (quote c : Char) : Option Char :=
  if c = quote ∨ c = '\\' then some c
  else if c = '\t' then some 't'
  else if c = '\n' then some 'n'
  else if c = '\r' then some 'r'
  else none

/-- A character by its number. -/
def numericEscape (n : Nat) : List Char :=
  if n < 0x100 then '\\' :: 'x' :: hexDigits 2 n
  else if n < 0x10000 then '\\' :: 'u' :: hexDigits 4 n
  else '\\' :: 'U' :: hexDigits 8 n

/-- One character as it stands between quotes. -/
def escapeChar (quote c : Char) : List Char :=
  match shortEscape? quote c with
  | some e => ['\\', e]
  | none => if isPrintable c then [c] else numericEscape c.toNat

/-- The text between quotes. -/
def quoted (s : String) : String :=
  let q := quoteMark s.toList
  String.ofList (q :: s.toList.flatMap (escapeChar q) ++ [q])

/-- One byte as it stands between quotes: a printable ASCII character, or its number. -/
def escapeByte (quote : Char) (b : UInt8) : List Char :=
  let c := Char.ofNat b.toNat
  match shortEscape? quote c with
  | some e => ['\\', e]
  | none => if 0x20 ≤ b ∧ b < 0x7f then [c] else numericEscape b.toNat

/-- A row of bytes between quotes, marked by a letter in front. -/
def quotedBytes (bs : List UInt8) : String :=
  let q := quoteMark (bs.map fun b => Char.ofNat b.toNat)
  String.ofList ('b' :: q :: bs.flatMap (escapeByte q) ++ [q])

end RecordFilter.Text
