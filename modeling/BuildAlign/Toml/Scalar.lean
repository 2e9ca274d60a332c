import BuildAlign.Config.Tree
import BuildAlign.Text.Cut
import BuildAlign.Text.Digits
import BuildAlign.Toml.Reader

/-!
The scalar values of the configuration language: strings of four kinds, truth values, and numbers
and dates, of which only the form is checked.
-/

namespace BuildAlign.Toml

open Reader

/-! ## Strings -/

def quote : Char :=
  '\x22'

def apostrophe : Char :=
  '\x27'

def isBasicChar (c : Char) : Bool :=
  c == '\t' || (0x20 ≤ c.toNat && c.toNat != 0x7F && c != quote && c != '\x5c')

def isLiteralChar (c : Char) : Bool :=
  c == '\t' || (0x20 ≤ c.toNat && c.toNat != 0x7F && c != apostrophe)

def codePoint (n : Nat) : Reader Char := do
  let ds := (← rest).take n
  let code := Text.numeralIn 16 ds
  if ds.length != n || !ds.all Text.isHexDigit || !decide code.isValidChar then fail
  skip n
  return Char.ofNat code

def escaped : Reader Char := do
  let c ← peek
  skip 1
  match c with
  | some 'b' => return '\x08'
  | some 'f' => return '\x0c'
  | some 'n' => return '\n'
  | some 'r' => return '\r'
  | some 't' => return '\t'
  | some '\x22' => return '\x22'
  | some '\x5c' => return '\x5c'
  | some 'u' => codePoint 4
  | some 'U' => codePoint 8
  | _ => fail

def basicRest : Nat → Reader (List Char)
  | 0 => fail
  | n + 1 => do
    let plain ← run isBasicChar
    if ← accept [quote] then return plain
    expect ['\x5c']
    let c ← escaped
    return plain ++ c :: (← basicRest n)

/-- Skips a backslash at the end of a line, with all blanks and line ends after it, if one comes
next, and says whether one did. -/
def lineContinuation : Reader Bool := do
  let after := ((← rest).drop 1).dropWhile isSpace
  let ends := ['\n'].isPrefixOf after || ['\r', '\n'].isPrefixOf after
  if (← sees ['\x5c']) && ends then
    skip 1
    let gap (s : List Char) : Bool := s.head?.any fun c => isSpace c || c == '\n'
    let rec skipGap : Nat → Reader Unit
      | 0 => return
      | n + 1 => do
        if gap (← rest) then
          skip 1
          skipGap n
        else if ← accept ['\r', '\n'] then skipGap n
    skipGap (← rest).length
    return true
  else return false

def countNext (c : Char) : Reader Nat :=
  return ((← rest).takeWhile (· == c)).length

/-- Reads the quotes in a string over several lines: fewer than three are part of it, and of three
to five the last three end it. Gives the quotes that are part of it and whether it ends. -/
def innerQuotes (c : Char) : Reader (List Char × Bool) := do
  let n ← countNext c
  let own := if n < 3 then n else min (n - 3) 2
  skip own
  return (List.replicate own c, ← accept [c, c, c])

/-- Reads the rest of a string over several lines in double quotes, with at most `n` parts. -/
def multiBasicRest : Nat → Reader (List Char)
  | 0 => fail
  | n + 1 => do
    let plain ← run isBasicChar
    if (← peek) == some quote then
      let (quotes, ended) ← innerQuotes quote
      if ended then return plain ++ quotes else return plain ++ quotes ++ (← multiBasicRest n)
    else if ← newline then return plain ++ '\n' :: (← multiBasicRest n)
    else if ← lineContinuation then return plain ++ (← multiBasicRest n)
    else
      expect ['\x5c']
      let c ← escaped
      return plain ++ c :: (← multiBasicRest n)

/-- Reads the rest of a string over several lines in single quotes, with at most `n` parts. -/
def multiLiteralRest : Nat → Reader (List Char)
  | 0 => fail
  | n + 1 => do
    let plain ← run isLiteralChar
    if (← peek) == some apostrophe then
      let (quotes, ended) ← innerQuotes apostrophe
      if ended then return plain ++ quotes else return plain ++ quotes ++ (← multiLiteralRest n)
    else if ← newline then return plain ++ '\n' :: (← multiLiteralRest n)
    else fail

def lineString : Reader String := do
  if ← accept [quote] then
    return String.ofList (← basicRest ((← rest).length + 1))
  else
    expect [apostrophe]
    let plain ← run isLiteralChar
    expect [apostrophe]
    return String.ofList plain

/-- Reads a string. A line end right after three quotes is not part of it. -/
def string : Reader String := do
  if ← accept [quote, quote, quote] then
    let _ ← newline
    return String.ofList (← multiBasicRest ((← rest).length + 1))
  else if ← accept [apostrophe, apostrophe, apostrophe] then
    let _ ← newline
    return String.ofList (← multiLiteralRest ((← rest).length + 1))
  else lineString

/-! ## Numbers and dates -/

/-- The rest after a run of digits, in which single underscores may stand between two digits. -/
def afterDigits? (p : Char → Bool) : List Char → Option (List Char)
  | [] => none
  | c :: s =>
    if !p c then none
    else
      match s with
      | '_' :: s' => afterDigits? p s'
      | s => if s.head?.any p then afterDigits? p s else some s

def afterWhole? : List Char → Option (List Char)
  | [] => none
  | c :: s =>
    if c == '0' then some s else if c.isDigit then afterDigits? Char.isDigit (c :: s) else none

/-- The text without a sign in front. -/
def unsigned (s : List Char) : List Char :=
  if s.head? == some '+' || s.head? == some '-' then s.tail else s

/-- The rest after an exponent, which there need not be. -/
def afterExponent? : List Char → Option (List Char)
  | [] => some []
  | c :: s => if c == 'e' || c == 'E' then afterDigits? Char.isDigit (unsigned s) else some (c :: s)

def afterFloat? (s : List Char) : Option (List Char) := do
  let s := unsigned s
  match (Text.after? ['i', 'n', 'f'] s).or (Text.after? ['n', 'a', 'n'] s) with
  | some rest => some rest
  | none =>
    let rest ← afterWhole? s
    match rest with
    | '.' :: rest => (afterDigits? Char.isDigit rest).bind afterExponent?
    | c :: _ => if c == 'e' || c == 'E' then afterExponent? rest else none
    | [] => none

def digitsOf (s : List Char) : List Char :=
  s.filter (· != '_')

/-- The magnitude of the least integer of 64 bits. -/
def integerLimit : Nat :=
  9223372036854775808

/-- The rest after an integer of 64 bits, in one of four bases. -/
def afterInteger? (s : List Char) : Option (List Char) := do
  let read (base : Nat) (p : Char → Bool) (s : List Char) : Option (List Char) := do
    let rest ← afterDigits? p s
    let ds := digitsOf (s.take (s.length - rest.length))
    if Text.numeralIn base ds < integerLimit then some rest else none
  match s with
  | '0' :: 'x' :: s => read 16 Text.isHexDigit s
  | '0' :: 'o' :: s => read 8 (fun c => '0' ≤ c && c ≤ '7') s
  | '0' :: 'b' :: s => read 2 (fun c => c == '0' || c == '1') s
  | s =>
    let rest ← afterWhole? (unsigned s)
    let n := Text.numeral (digitsOf ((unsigned s).take ((unsigned s).length - rest.length)))
    if n < integerLimit || (n == integerLimit && s.head? == some '-') then some rest else none

def field? (n least most : Nat) (s : List Char) : Option (Nat × List Char) :=
  let ds := s.take n
  let value := Text.numeral ds
  if ds.length == n && ds.all Char.isDigit && least ≤ value && value ≤ most then
    some (value, s.drop n)
  else none

def daysIn (year month : Nat) : Nat :=
  if month == 2 then
    (if year % 4 == 0 && (year % 100 != 0 || year % 400 == 0) then 29 else 28)
  else if [4, 6, 9, 11].contains month then 30 else 31

def afterDate? (s : List Char) : Option (List Char) := do
  let (year, s) ← field? 4 0 9999 s
  let (month, s) ← (Text.after? ['-'] s).bind (field? 2 1 12)
  let (_, s) ← (Text.after? ['-'] s).bind (field? 2 1 (daysIn year month))
  some s

def afterTime? (s : List Char) : Option (List Char) := do
  let (_, s) ← field? 2 0 23 s
  let (_, s) ← (Text.after? [':'] s).bind (field? 2 0 59)
  let (_, s) ← (Text.after? [':'] s).bind (field? 2 0 60)
  match s with
  | '.' :: t => if t.head?.any Char.isDigit then some (t.dropWhile Char.isDigit) else some s
  | _ => some s

def afterOffset (s : List Char) : List Char :=
  match s with
  | c :: t =>
    if c == 'Z' || c == 'z' then t
    else if c == '+' || c == '-' then
      (do
        let (_, t) ← field? 2 0 23 t
        let (_, t) ← (Text.after? [':'] t).bind (field? 2 0 59)
        some t).getD s
    else s
  | [] => []

def afterDateTime? (s : List Char) : Option (List Char) :=
  match afterDate? s with
  | none => afterTime? s
  | some rest =>
    match rest with
    | c :: t =>
      if c == 'T' || c == 't' || c == ' ' then
        some (((afterTime? t).map afterOffset).getD rest)
      else some rest
    | [] => some []

def number : Reader Unit := do
  let s ← rest
  match (afterDateTime? s).or ((afterFloat? s).or (afterInteger? s)) with
  | some rest => skip (s.length - rest.length)
  | none => fail

def scalar : Reader Tree := do
  let line ← line
  match ← peek with
  | some c =>
    if c == quote || c == apostrophe then return .text line (← string)
    else if c == 't' then
      expect ['t', 'r', 'u', 'e']
      return .flag line true
    else if c == 'f' then
      expect ['f', 'a', 'l', 's', 'e']
      return .flag line false
    else
      number
      return .other line
  | none => fail

end BuildAlign.Toml
