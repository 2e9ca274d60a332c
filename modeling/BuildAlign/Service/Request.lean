import BuildAlign.Json.Basic
import BuildAlign.Reactor.Interpolation
import BuildAlign.Version.Parse

/-!
Requests to the alignment service: the artifacts and versions of a reactor for which the service is
asked for a better version. Every module with a version is one of them, and so is every dependency
whose version can be resolved.
-/

namespace BuildAlign

/-- An artifact at a version. -/
structure Gav where
  artifact : Artifact
  version : String
  deriving DecidableEq, Repr

namespace Gav

def order : Gav → Gav → Ordering :=
  compareLex (compareOn Gav.artifact) (compareOn Gav.version)

instance : Std.TransCmp order :=
  inferInstanceAs (Std.TransCmp (compareLex (compareOn Gav.artifact) _))

instance : Ord Gav := ⟨order⟩

instance : Key Gav where
  trans := inferInstanceAs (Std.TransCmp order)
  lawful :=
    { compare_self := @Std.ReflCmp.compare_self _ order _
      eq_of_compare := fun {a b} h => by
        have h' : order a b = .eq := h
        simp only [order, compareLex_eq_eq, compareOn, Std.LawfulEqCmp.compare_eq_iff_eq] at h'
        cases a; cases b
        simp_all }

def toJson (x : Gav) : Json :=
  .object [("groupId", .text x.artifact.group), ("artifactId", .text x.artifact.name),
    ("version", .text x.version)]

end Gav

namespace ServiceRequest

/-- A version as the service is asked for it: without its snapshot marker unless markers are kept.
-/
def requested (keepSnapshot : Bool) (version : String) : String :=
  if keepSnapshot then version else ((Version.parse version).setSnapshot false).render

/-- Writes what is asked for in place of an artifact at its own version. -/
def ask? (keepSnapshot : Bool) (x : Gav) : Option Gav :=
  if keepSnapshot then some x
  else ((Version.parse x.version).setSnapshot false).render?.map fun version => { x with version }

/-- The module itself, if it has a version. -/
def moduleGav? (r : Reactor) (keepSnapshot : Bool) (id : Nat) : Option Gav :=
  (r.version? id).map fun version =>
    { artifact := r.artifact id, version := requested keepSnapshot version }

/-- A dependency of a module, if its resolved version is neither empty nor refers to anything. -/
def declaredGav? (r : Reactor) (keepSnapshot : Bool) (id : Nat) (d : Declaration) : Option Gav :=
  (d.version.map (r.resolve id)).bind fun version =>
    if version.isEmpty || Template.hasReference version then none
    else some { artifact := r.declaredArtifact id d, version := requested keepSnapshot version }

def moduleGavs (r : Reactor) (keepSnapshot : Bool) (id : Nat) : List Gav :=
  (moduleGav? r keepSnapshot id).toList
    ++ (r.module id).dependencyDeclarations.filterMap (declaredGav? r keepSnapshot id)

def gavs (r : Reactor) (keepSnapshot : Bool) : List Gav :=
  (KeySet.ofList (r.ids.flatMap (moduleGavs r keepSnapshot))).keys

/-- Computes the request: everything at its own version, then each as it is asked for. -/
def gavs? (r : Reactor) (keepSnapshot : Bool) : Option (List Gav) := do
  let asked ← (r.ids.flatMap (moduleGavs r true)).mapM (ask? keepSnapshot)
  return (KeySet.ofList asked).keys

def toJson? (r : Reactor) (keepSnapshot : Bool) : Option Json :=
  (gavs? r keepSnapshot).map fun xs => .list (xs.map Gav.toJson)

end ServiceRequest

end BuildAlign
