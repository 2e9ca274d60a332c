import BuildAlign.Json.Read
import BuildAlign.Json.Record
import BuildAlign.Override.Map
import BuildAlign.Service.Request
import BuildAlign.Text.Blank
import BuildAlign.Versioning.Policy

/-!
Answers of the alignment service: for artifacts at versions the best version to move to and the
other versions that are known. The best versions are overrides for everything outside of the
reactor; for the modules of the reactor all versions are published ones, for the next build number.
-/

namespace BuildAlign

/-- The answer for one artifact at a version. -/
structure ServiceMatch where
  request : Gav
  best : String
  available : List String
  deriving DecidableEq, Repr

namespace ServiceMatch

def fieldNames : List String :=
  ["groupId", "artifactId", "version", "bestMatchVersion", "availableVersions"]

def ofJson? (x : Json) : Option (Option ServiceMatch) := do
  let r ← x.fields? fieldNames
  let group ← r.required "groupId" Json.text?
  let name ← r.required "artifactId" Json.text?
  let version ← r.required "version" Json.text?
  let best ← r.nullable "bestMatchVersion"
  let available ← r.withDefault "availableVersions" (Json.listOf? Json.text?) []
  some <| (best.filter fun v => !Text.isBlank v).map fun best =>
    { request := { artifact := { group, name }, version }, best, available }

/-- Whether a body is an object with a message in place of answers. -/
def isMessage (body : String) : Bool :=
  match Json.read? body with
  | some (.object members) => members.any (·.1 == "message")
  | _ => false

/-- Reads a list of answers; those without a best version are left out. -/
def listOfJson? (x : Json) : Option (List ServiceMatch) :=
  (Json.listOf? ofJson? x).map fun answers => answers.filterMap id

/-- Reads a body. An empty one, a page for a browser, and a message have no answers; any other body
must be a list of answers. -/
def parse? (body : String) : Option (List ServiceMatch) :=
  let body := Text.trimmed body
  if body.isEmpty || body.toList.head? == some '<' || isMessage body then some []
  else (Json.read? body).bind listOfJson?

def overrides (answers : List ServiceMatch) (r : Reactor) : OverrideMap :=
  let modules := r.artifacts
  let foreign := answers.filter fun a => !modules.contains a.request.artifact
  .ofCoordinates .rest (foreign.map fun a => a.request.artifact.at a.best)

def versions (a : ServiceMatch) : List String :=
  a.best :: a.available

def publish (known : Table Artifact (KeySet String)) (artifact : Artifact)
    (versions : List String) : Table Artifact (KeySet String) :=
  known.insert artifact (versions.foldl KeySet.add (known.getD artifact ∅))

def published (answers : List ServiceMatch) (r : Reactor) : Table Artifact (KeySet String) :=
  let modules := r.artifacts
  (answers.filter fun a => modules.contains a.request.artifact).foldl
    (fun known a => publish known a.request.artifact a.versions) ∅

end ServiceMatch

def Candidates.ofSets (known : Table Artifact (KeySet String)) : Candidates :=
  known.mapValues fun _ versions => versions.keys

end BuildAlign
