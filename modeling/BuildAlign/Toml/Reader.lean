/-!
Readers of a configuration text that keep count of lines. A reader that fails gives the line that it
has come to.
-/

namespace BuildAlign.Toml

/-- What is still to be read, and the line on which it starts. -/
structure Cursor where
  rest : List Char
  line : Nat

/-- A reader of a part of a text. -/
abbrev Reader := StateT Cursor (Except Nat)

namespace Reader

def line : Reader Nat :=
  return (← get).line

def rest : Reader (List Char) :=
  return (← get).rest

def fail {α : Type} : Reader α := do
  throw (← line)

def peek : Reader (Option Char) :=
  return (← rest).head?

def lineAfter (line : Nat) (c : Char) : Nat :=
  if c == '\n' then line + 1 else line

def skip : Nat → Reader Unit
  | 0 => return
  | n + 1 => do
    modify fun s =>
      match s.rest with
      | [] => s
      | c :: rest => { rest, line := lineAfter s.line c }
    skip n

def sees (mark : List Char) : Reader Bool :=
  return mark.isPrefixOf (← rest)

def accept (mark : List Char) : Reader Bool := do
  if ← sees mark then
    skip mark.length
    return true
  else return false

def expect (mark : List Char) : Reader Unit := do
  if !(← accept mark) then fail

def run (p : Char → Bool) : Reader (List Char) := do
  let cs := (← rest).takeWhile p
  skip cs.length
  return cs

def isSpace (c : Char) : Bool :=
  c == ' ' || c == '\t'

def spaces : Reader Unit := do
  let _ ← run isSpace

/-- Skips the end of a line if it comes next, and says whether it did. -/
def newline : Reader Bool := do
  if ← accept ['\n'] then return true else accept ['\r', '\n']

def isCommentChar (c : Char) : Bool :=
  c == '\t' || 0x20 ≤ c.toNat

def comment : Reader Bool := do
  if (← peek) == some '#' then
    let _ ← run isCommentChar
    return true
  else return false

/-- Skips what may stand at the end of a line, and the end of the line or of the text. -/
def endOfLine : Reader Unit := do
  spaces
  let _ ← comment
  if !(← newline) && (← peek).isSome then fail

def blanksUpTo : Nat → Reader Unit
  | 0 => return
  | n + 1 => do
    spaces
    if (← comment) || (← newline) then blanksUpTo n

def blanks : Reader Unit := do
  blanksUpTo ((← rest).length + 1)

end Reader

end BuildAlign.Toml
