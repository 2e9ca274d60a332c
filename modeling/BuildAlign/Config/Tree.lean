import BuildAlign.Json.Basic

/-!
Configuration texts as trees, before their meaning is known. Every part has the line on which it
starts, so that a mistake can be reported with its line.
-/

namespace BuildAlign

/-- A value of a configuration text with its line. -/
inductive Tree where
  | text (line : Nat) (value : String)
  | flag (line : Nat) (value : Bool)
  | null (line : Nat)
  /-- A number or a date; no setting is one. -/
  | other (line : Nat)
  | list (line : Nat) (items : List Tree)
  /-- Entries in order, each with the line of its key. -/
  | table (line : Nat) (entries : List (String × Nat × Tree))
  deriving Repr, Inhabited

namespace Tree

def line : Tree → Nat
  | text line _ | flag line _ | null line | other line | list line _ | table line _ => line

mutual

/-- A JSON value as a tree; JSON values have no lines. -/
def ofJson : Json → Tree
  | .null => null 0
  | .bool value => flag 0 value
  | .natural _ | .number _ => other 0
  | .text value => text 0 value
  | .list items => list 0 (ofItems items)
  | .object members => table 0 (ofMembers members)

def ofItems : List Json → List Tree
  | [] => []
  | x :: rest => ofJson x :: ofItems rest

def ofMembers : List (String × Json) → List (String × Nat × Tree)
  | [] => []
  | (name, x) :: rest => (name, 0, ofJson x) :: ofMembers rest

end

end Tree

end BuildAlign
