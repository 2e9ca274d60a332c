/-!
JSON values. Objects keep their members in the order of the text, repeated names included; what a
repeated name means is for the reader of the object to say.
-/

namespace BuildAlign

/-- A JSON value. A number is `natural` if it is written as an integer of 64 bits without a sign,
and otherwise kept as its literal. -/
inductive Json where
  | null
  | bool (value : Bool)
  | natural (value : Nat)
  | number (literal : String)
  | text (value : String)
  | list (items : List Json)
  | object (members : List (String × Json))
  deriving Repr, Inhabited

namespace Json

/-- A member that is present only with a value. -/
def optional (name : String) (value : Option Json) : List (String × Json) :=
  value.toList.map (name, ·)

def texts (items : List String) : Json :=
  list (items.map text)

end Json

end BuildAlign
