import BuildAlign.Coordinate.Basic
import BuildAlign.Text.Blank

/-!
Reading identities. A text is trimmed and split at the colons; an artifact has two parts and a
coordinate three to five. Group, name and version must hold more than blanks; an empty type is the
default one, and an empty classifier is none.
-/

namespace BuildAlign

inductive IdentityKind where
  | artifact
  | coordinate
  deriving DecidableEq, Repr

inductive IdentityPart where
  | group
  | name
  | version
  deriving DecidableEq, Repr

inductive IdentityError where
  | empty (kind : IdentityKind)
  | shape (kind : IdentityKind) (value : String)
  | emptyPart (kind : IdentityKind) (value : String) (part : IdentityPart)
  deriving DecidableEq, Repr

namespace IdentityKind

def word : IdentityKind → String
  | artifact => "GA"
  | coordinate => "coordinate"

def shape : IdentityKind → String
  | artifact => "group:artifact"
  | coordinate => "group:artifact[:type[:classifier]]:version"

end IdentityKind

def IdentityPart.word : IdentityPart → String
  | group => "groupId"
  | name => "artifactId"
  | version => "version"

def IdentityError.message : IdentityError → String
  | empty kind => "empty " ++ kind.word ++ " string"
  | shape kind value => "invalid " ++ kind.word ++ " `" ++ value ++ "`: expected " ++ kind.shape
  | emptyPart kind value part =>
    "invalid " ++ kind.word ++ " `" ++ value ++ "`: " ++ part.word ++ " must not be empty"

def colonParts (s : String) : List String :=
  (s.toList.splitOn ':').map String.ofList

def blankPart? (parts : List (IdentityPart × String)) : Option IdentityPart :=
  (parts.find? fun p => Text.isBlank p.2).map Prod.fst

/-- Reads `group:name`. -/
def Artifact.parse (text : String) : Except IdentityError Artifact :=
  let s := Text.trimmed text
  if s.isEmpty then .error (.empty .artifact)
  else
    match colonParts s with
    | [group, name] =>
      match blankPart? [(.group, group), (.name, name)] with
      | some part => .error (.emptyPart .artifact s part)
      | none => .ok { group, name }
    | _ => .error (.shape .artifact s)

/-- The five fields of a coordinate from its three to five parts: group, name, type, classifier and
version. -/
def coordinateFields? : List String → Option (String × String × String × Option String × String)
  | [g, a, v] => some (g, a, defaultKind, none, v)
  | [g, a, t, v] => some (g, a, t, none, v)
  | [g, a, t, c, v] => some (g, a, t, some c, v)
  | _ => none

/-- Reads `group:name[:type[:classifier]]:version`. -/
def Coordinate.parse (text : String) : Except IdentityError Coordinate :=
  let s := Text.trimmed text
  if s.isEmpty then .error (.empty .coordinate)
  else
    match coordinateFields? (colonParts s) with
    | some (group, name, kind, classifier, version) =>
      match blankPart? [(.group, group), (.name, name), (.version, version)] with
      | some part => .error (.emptyPart .coordinate s part)
      | none =>
        .ok <| ((Artifact.mk group name).at version
          |>.withKind (if kind.isEmpty then defaultKind else kind)
          |>.withClassifier classifier)
    | none => .error (.shape .coordinate s)

end BuildAlign
