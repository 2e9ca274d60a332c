/-!
Decimal numerals over the ASCII digits. A numeral may have leading zeros, so writing a number needs
the width it was read with: `padded ds.length n` gives back the digits `ds` that were read as `n`.
-/

namespace BuildAlign.Text

/-- The number that a run of digits writes, most significant digit first. -/
def numeral (ds : List Char) : Nat :=
  ds.foldl (fun n d => 10 * n + (d.toNat - '0'.toNat)) 0

/-- The greatest number of 64 bits. -/
def maxWord : Nat :=
  18446744073709551615

/-- Reads a nonempty run of digits as a number of at most 64 bits. -/
def word? (ds : List Char) : Option Nat :=
  if ds.isEmpty || !ds.all Char.isDigit || maxWord < numeral ds then none else some (numeral ds)

/-- Whether the text is a nonempty run of digits. -/
def isNumeral (s : List Char) : Bool :=
  !s.isEmpty && s.all Char.isDigit

def isHexDigit (c : Char) : Bool :=
  c.isDigit || ('a' ≤ c && c ≤ 'f') || ('A' ≤ c && c ≤ 'F')

def digitValue (c : Char) : Nat :=
  if c.isDigit then c.toNat - '0'.toNat else c.toLower.toNat - 'a'.toNat + 10

/-- The number that a run of digits writes in a base of at most sixteen. -/
def numeralIn (base : Nat) (ds : List Char) : Nat :=
  ds.foldl (fun n d => base * n + digitValue d) 0

/-- The shortest numeral of a number, padded with zeros on the left up to the given width. This is
the text alone; whether it can be written is up to `padded?`. -/
def padded (width n : Nat) : List Char :=
  let ds := Nat.toDigits 10 n
  List.replicate (width - ds.length) '0' ++ ds

/-- The greatest width that a number can be padded to. -/
def maxWidth : Nat :=
  65535

/-- Writes a number with a width that was read from a text. A run that asks for a width beyond the
greatest one is aborted. -/
def padded? (width n : Nat) : Option (List Char) :=
  if width ≤ maxWidth then some (padded width n) else none

end BuildAlign.Text
