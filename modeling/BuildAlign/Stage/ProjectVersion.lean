import BuildAlign.Progress

/-!
The replacement of the reference to the module's own version. In aggregating modules with a concrete
version, a dependency version or a property value that is exactly that reference is replaced by the
version.
-/

namespace BuildAlign

namespace ProjectVersion

/-- The reference that is replaced. -/
def reference : String :=
  "$\x7bproject.version\x7d"

def replaceSlot (id : Nat) (artifact : Artifact) (version : String) (p : Progress)
    (d : Declaration) : Progress :=
  p.edit (p.reactor.setSlot id d.address version) id artifact
    (.declaration d.address { group := d.group, name := d.name }) d.version (some version)

def replaceProperty (id : Nat) (artifact : Artifact) (version : String) (p : Progress)
    (item : Scope × String) : Progress :=
  p.edit (p.reactor.setProperty id item.1 item.2 version) id artifact (.property item.2)
    (some reference) (some version)

/-- The properties of a module that are the reference, body after body and by name. -/
def referringProperties (m : Module) : List (Scope × String) :=
  m.bodies.flatMap fun (scope, b) =>
    (b.properties.entries.filter (·.2 == reference)).map fun e => (scope, e.1)

/-- The version that stands for the reference in a module, if the module is an aggregating one. -/
def concrete? (r : Reactor) (id : Nat) : Option String :=
  if (r.module id).isPom then (r.version? id).filter fun v => !Template.hasReference v else none

def replaceModule (p : Progress) (id : Nat) : Progress :=
  match concrete? p.reactor id with
  | none => p
  | some version =>
    let artifact := p.reactor.artifact id
    let m := p.reactor.module id
    let p := (m.dependencyDeclarations.filter (·.version == some reference)).foldl
      (replaceSlot id artifact version) p
    (referringProperties m).foldl (replaceProperty id artifact version) p

def run (p : Progress) : Progress :=
  p.reactor.ids.foldl replaceModule p

end ProjectVersion

end BuildAlign
