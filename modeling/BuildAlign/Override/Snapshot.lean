import BuildAlign.Json.Record
import BuildAlign.Override.Error
import BuildAlign.Override.Map

/-!
Snapshots of an override source: versions by the text of an artifact, or a list of coordinates.
-/

namespace BuildAlign

/-- One source's overrides as they are supplied. -/
inductive OverrideSnapshot where
  | pairs (versions : Table String String)
  | coordinates (texts : List String)
  deriving DecidableEq, Repr

/-- Reads a snapshot: an object of texts or a list of texts. -/
def OverrideSnapshot.ofJson? : Json → Option OverrideSnapshot
  | .list items => (items.mapM Json.text?).map coordinates
  | x => (Json.tableOf? Json.text? x).map pairs

/-- The override map of a snapshot. The first text that is no identity is the error. -/
def OverrideSnapshot.toMap (s : OverrideSnapshot) (source : OverrideSource) :
    Except OverrideError OverrideMap :=
  (match s with
    | .pairs versions => OverrideMap.ofPairs source versions.entries
    | .coordinates texts => OverrideMap.ofTexts source texts).mapError
  fun (value, cause) => { value, fault := .identity cause }

end BuildAlign
