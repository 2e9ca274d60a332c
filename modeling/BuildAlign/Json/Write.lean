import BuildAlign.Json.Basic

/-!
Writing JSON values, on one line or over several lines with an indentation of two spaces. Strings
escape quotes, backslashes and control characters and nothing else.
-/

namespace BuildAlign.Json

def hexChar (n : Nat) : Char :=
  if n < 10 then Char.ofNat ('0'.toNat + n) else Char.ofNat ('a'.toNat + (n - 10))

def escape (c : Char) : List Char :=
  if c == '\x22' || c == '\x5c' then ['\x5c', c]
  else if c == '\n' then ['\x5c', 'n']
  else if c == '\r' then ['\x5c', 'r']
  else if c == '\t' then ['\x5c', 't']
  else if c == '\x08' then ['\x5c', 'b']
  else if c == '\x0c' then ['\x5c', 'f']
  else if c.toNat < 0x20 then
    ['\x5c', 'u', '0', '0', hexChar (c.toNat / 16), hexChar (c.toNat % 16)]
  else [c]

def quoted (s : String) : String :=
  "\"" ++ String.ofList (s.toList.flatMap escape) ++ "\""

mutual

def compact : Json → String
  | null => "null"
  | bool value => if value then "true" else "false"
  | natural n => toString n
  | number literal => literal
  | text s => quoted s
  | list items => "[" ++ compactItems items ++ "]"
  | object members => "\x7b" ++ compactMembers members ++ "\x7d"

def compactItems : List Json → String
  | [] => ""
  | [x] => compact x
  | x :: rest => compact x ++ "," ++ compactItems rest

def compactMembers : List (String × Json) → String
  | [] => ""
  | [(name, x)] => quoted name ++ ":" ++ compact x
  | (name, x) :: rest => quoted name ++ ":" ++ compact x ++ "," ++ compactMembers rest

end

def newLine (depth : Nat) : String :=
  "\n" ++ String.ofList (List.replicate (2 * depth) ' ')

mutual

/-- The value over several lines, inside `depth` brackets. Empty lists and objects stay on one
line. -/
def prettyAt (depth : Nat) : Json → String
  | list [] => "[]"
  | object [] => "\x7b\x7d"
  | list items => "[" ++ prettyItems (depth + 1) items ++ newLine depth ++ "]"
  | object members => "\x7b" ++ prettyMembers (depth + 1) members ++ newLine depth ++ "\x7d"
  | null => "null"
  | bool value => if value then "true" else "false"
  | natural n => toString n
  | number literal => literal
  | text s => quoted s

def prettyItems (depth : Nat) : List Json → String
  | [] => ""
  | [x] => newLine depth ++ prettyAt depth x
  | x :: rest => newLine depth ++ prettyAt depth x ++ "," ++ prettyItems depth rest

def prettyMembers (depth : Nat) : List (String × Json) → String
  | [] => ""
  | [(name, x)] => newLine depth ++ quoted name ++ ": " ++ prettyAt depth x
  | (name, x) :: rest =>
    newLine depth ++ quoted name ++ ": " ++ prettyAt depth x ++ "," ++ prettyMembers depth rest

end

def pretty (x : Json) : String :=
  prettyAt 0 x

end BuildAlign.Json
