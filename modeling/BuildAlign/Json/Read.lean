import BuildAlign.Json.Basic
import BuildAlign.Text.Cut
import BuildAlign.Text.Digits

/-!
Reading JSON texts, strictly: no comments, no trailing commas, nothing after the value, no raw
control characters and no unpaired surrogates in strings, no number beyond the range of a double,
and at most 127 brackets open at a time.
-/

namespace BuildAlign.Json

/-- How many brackets may be open at a time. -/
def maxNesting : Nat :=
  127

def isGap (c : Char) : Bool :=
  c == ' ' || c == '\n' || c == '\t' || c == '\r'

/-- The text without the characters between tokens in front of it. -/
def skipGaps (s : List Char) : List Char :=
  s.dropWhile isGap

def hexQuad? : List Char → Option (Nat × List Char)
  | a :: b :: c :: d :: rest =>
    let ds := [a, b, c, d]
    if ds.all Text.isHexDigit then some (Text.numeralIn 16 ds, rest) else none
  | _ => none

/-- The character of a numeric escape, after its `\u`. A leading surrogate must be followed by the
escape of a trailing one, and both make one character. -/
def numericEscape? (s : List Char) : Option (Char × List Char) := do
  let (unit, rest) ← hexQuad? s
  if 0xDC00 ≤ unit ∧ unit ≤ 0xDFFF then none
  else if 0xD800 ≤ unit ∧ unit ≤ 0xDBFF then
    let (low, rest) ← (Text.after? ['\x5c', 'u'] rest).bind hexQuad?
    if 0xDC00 ≤ low ∧ low ≤ 0xDFFF then
      some (Char.ofNat (0x10000 + (unit - 0xD800) * 0x400 + (low - 0xDC00)), rest)
    else none
  else some (Char.ofNat unit, rest)

def simpleEscape? (c : Char) : Option Char :=
  if c == '\x22' || c == '\x5c' || c == '/' then some c
  else if c == 'b' then some '\x08'
  else if c == 'f' then some '\x0c'
  else if c == 'n' then some '\n'
  else if c == 'r' then some '\r'
  else if c == 't' then some '\t'
  else none

def character? : List Char → Option (Char × List Char)
  | [] => none
  | c :: rest =>
    if c == '\x5c' then
      match rest with
      | [] => none
      | e :: rest => if e == 'u' then numericEscape? rest else (simpleEscape? e).map (·, rest)
    else if c.toNat < 0x20 then none
    else some (c, rest)

/-- The characters of a string up to its closing quote, and the rest after it. -/
def stringBody? : Nat → List Char → Option (List Char × List Char)
  | 0, _ => none
  | n + 1, s =>
    if s.head? = some '\x22' then some ([], s.drop 1)
    else do
      let (c, rest) ← character? s
      let (cs, rest) ← stringBody? n rest
      some (c :: cs, rest)

/-- A string, after its opening quote. -/
def string? (s : List Char) : Option (String × List Char) :=
  (stringBody? (s.length + 1) s).map fun (cs, rest) => (String.ofList cs, rest)

/-- A number as it is written: its digits before and after the point, and its exponent. -/
structure Numeral where
  negative : Bool
  whole : List Char
  fraction : Option (List Char)
  exponent : Option (Bool × List Char)

def digits? (s : List Char) : Option (List Char × List Char) :=
  match s.takeWhile Char.isDigit with
  | [] => none
  | ds => some (ds, s.dropWhile Char.isDigit)

/-- The digits in front of the point; a leading zero stands alone. -/
def whole? (s : List Char) : Option (List Char × List Char) := do
  let (ds, rest) ← digits? s
  if ds.head? = some '0' ∧ ds.length ≠ 1 then none else some (ds, rest)

def fraction? (s : List Char) : Option (Option (List Char) × List Char) :=
  match Text.after? ['.'] s with
  | some rest => (digits? rest).map fun (ds, rest) => (some ds, rest)
  | none => some (none, s)

/-- The exponent, if there is one: whether it is negative, and its digits. -/
def exponent? : List Char → Option (Option (Bool × List Char) × List Char)
  | [] => some (none, [])
  | c :: s =>
    if c == 'e' || c == 'E' then
      let (negative, s) :=
        match s with
        | '-' :: t => (true, t)
        | '+' :: t => (false, t)
        | t => (false, t)
      (digits? s).map fun (ds, rest) => (some (negative, ds), rest)
    else some (none, c :: s)

def numeral? (s : List Char) : Option (Numeral × List Char) := do
  let (negative, s) :=
    match Text.after? ['-'] s with
    | some rest => (true, rest)
    | none => (false, s)
  let (whole, s) ← whole? s
  let (fraction, s) ← fraction? s
  let (exponent, s) ← exponent? s
  some ({ negative, whole, fraction, exponent }, s)

/-- Half a unit in the last place beyond the greatest double: numbers from here on have none. -/
def doubleLimit : Nat :=
  Nat.pow 2 1024 - Nat.pow 2 970

/-- Whether a number is in the range of a double. The number of digits decides far from the limit,
so that no great power is taken. -/
def Numeral.inRange (n : Numeral) : Bool :=
  let significand := Text.numeral (n.whole ++ n.fraction.getD [])
  let shift : Int :=
    (match n.exponent with
      | some (true, ds) => -(Text.numeral ds : Int)
      | some (false, ds) => (Text.numeral ds : Int)
      | none => 0) - ((n.fraction.getD []).length : Int)
  let magnitude := (Nat.toDigits 10 significand).length + shift
  significand == 0 || magnitude ≤ 308
    || (magnitude ≤ 310
      && if 0 ≤ shift then significand * Nat.pow 10 shift.toNat < doubleLimit
        else significand < doubleLimit * Nat.pow 10 (-shift).toNat)

def Numeral.toJson (n : Numeral) (literal : List Char) : Json :=
  let plain := !n.negative && n.fraction.isNone && n.exponent.isNone
  match (if plain then Text.word? n.whole else none) with
  | some value => natural value
  | none => number (String.ofList literal)

def number? (s : List Char) : Option (Json × List Char) := do
  let (n, rest) ← numeral? s
  if n.inRange then some (n.toJson (s.take (s.length - rest.length)), rest) else none

def scalar? (s : List Char) : Option (Json × List Char) :=
  ((Text.after? ['n', 'u', 'l', 'l'] s).map (null, ·))
    <|> ((Text.after? ['t', 'r', 'u', 'e'] s).map (bool true, ·))
    <|> ((Text.after? ['f', 'a', 'l', 's', 'e'] s).map (bool false, ·))
    <|> number? s

mutual

/-- A value and the rest, with `depth` more brackets allowed to open. -/
def value? : Nat → Nat → List Char → Option (Json × List Char)
  | 0, _, _ => none
  | n + 1, depth, s =>
    match skipGaps s with
    | [] => none
    | c :: rest =>
      if c == '\x22' then (string? rest).map fun (t, rest) => (text t, rest)
      else if c == '[' then
        match depth with
        | 0 => none
        | d + 1 =>
          match Text.after? [']'] (skipGaps rest) with
          | some rest => some (list [], rest)
          | none => (items? n d rest).map fun (xs, rest) => (list xs, rest)
      else if c == '\x7b' then
        match depth with
        | 0 => none
        | d + 1 =>
          match Text.after? ['\x7d'] (skipGaps rest) with
          | some rest => some (object [], rest)
          | none => (members? n d rest).map fun (ms, rest) => (object ms, rest)
      else scalar? (c :: rest)

def items? : Nat → Nat → List Char → Option (List Json × List Char)
  | 0, _, _ => none
  | n + 1, depth, s => do
    let (x, rest) ← value? n depth s
    match skipGaps rest with
    | [] => none
    | c :: rest =>
      if c == ',' then do
        let (xs, rest) ← items? n depth rest
        some (x :: xs, rest)
      else if c == ']' then some ([x], rest)
      else none

def members? : Nat → Nat → List Char → Option (List (String × Json) × List Char)
  | 0, _, _ => none
  | n + 1, depth, s => do
    let (name, rest) ← (Text.after? ['\x22'] (skipGaps s)).bind string?
    let rest ← Text.after? [':'] (skipGaps rest)
    let (x, rest) ← value? n depth rest
    match skipGaps rest with
    | [] => none
    | c :: rest =>
      if c == ',' then do
        let (ms, rest) ← members? n depth rest
        some ((name, x) :: ms, rest)
      else if c == '\x7d' then some ([(name, x)], rest)
      else none

end

def read? (source : String) : Option Json := do
  let s := source.toList
  let (x, rest) ← value? (2 * s.length + 2) maxNesting s
  if (skipGaps rest).isEmpty then some x else none

end BuildAlign.Json
