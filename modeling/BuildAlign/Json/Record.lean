import BuildAlign.Json.Basic
import BuildAlign.Table

/-!
Reading records out of JSON values. A record is an object; where the order of its fields is fixed,
it may also be written as the list of their values. Unknown members are ignored, and a known name
must not be repeated.
-/

namespace BuildAlign.Json

/-- The fields of a record by name. -/
abbrev Record := List (String × Json)

def text? : Json → Option String
  | text s => some s
  | _ => none

def nullableText? : Json → Option (Option String)
  | null => some none
  | text s => some (some s)
  | _ => none

def natural? : Json → Option Nat
  | natural n => some n
  | _ => none

def listOf? {α : Type} (read : Json → Option α) : Json → Option (List α)
  | list items => items.mapM read
  | _ => none

/-- An object of which every value can be read; of a repeated name the last value stands. -/
def tableOf? {α : Type} (read : Json → Option α) : Json → Option (Table String α)
  | object members =>
    (members.mapM fun m => (read m.2).map (m.1, ·)).map Table.ofList
  | _ => none

/-- Whether a name is among the members more than once. -/
def repeated (members : Record) (name : String) : Bool :=
  1 < (members.filter (·.1 == name)).length

/-- The fields of an object in which none of the given names is repeated. -/
def fields? (names : List String) : Json → Option Record
  | object members => if names.any (repeated members) then none else some members
  | _ => none

/-- The fields of a record with the given names, in an object or in a list of at most as many
values. -/
def record? (names : List String) : Json → Option Record
  | list items => if items.length ≤ names.length then some (names.zip items) else none
  | x => fields? names x

def Record.get? (r : Record) (name : String) : Option Json :=
  (r.find? (·.1 == name)).map Prod.snd

def Record.required {α : Type} (r : Record) (name : String) (read : Json → Option α) : Option α :=
  (r.get? name).bind read

def Record.withDefault {α : Type} (r : Record) (name : String) (read : Json → Option α)
    (default : α) : Option α :=
  match r.get? name with
  | some x => read x
  | none => some default

/-- Reads a text that may be left out or null. -/
def Record.nullable (r : Record) (name : String) : Option (Option String) :=
  r.withDefault name nullableText? none

end BuildAlign.Json
