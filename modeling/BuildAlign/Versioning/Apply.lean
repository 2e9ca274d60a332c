import BuildAlign.Progress
import BuildAlign.Reactor.Property
import BuildAlign.Versioning.Changes

/-!
Writing version changes into the reactor. Every place that carries a changed coordinate follows it:
the version of the module itself, the declared parent of its children, and dependencies on it. Where
a property is the whole text at such a place, the property is changed instead. All edits are
planned on the unchanged reactor and then made one after the other.
-/

namespace BuildAlign

namespace VersionChanges

/-- A place in a module that carries a version. -/
inductive Site where
  | own
  | parent
  | entry (address : Address) (artifact : Artifact)
  deriving DecidableEq, Repr

structure Edit where
  module : Nat
  site : Site
  new : String
  deriving DecidableEq, Repr

/-- The planned edits of places, the planned values of properties, and the warnings on the way. -/
structure Plan where
  edits : List Edit := []
  properties : Table PropertySlot String := ∅
  report : Report

/-- The declarations of a property that have to follow a new version: the one a module sees, or else
every one in the reactor. -/
def propertySlots (r : Reactor) (id : Nat) (name : String) : List PropertySlot :=
  match r.locate? id name with
  | some place => [place.slot]
  | none => r.ids.filterMap fun m => (r.ownPlace? name m).map PropertyPlace.slot

/-- Plans an edit of a place with the text `raw`. A text that is one property reference plans the
property in place of the edit; a built-in reference follows by itself. -/
def Plan.push (plan : Plan) (r : Reactor) (raw : String) (edit : Edit) : Plan :=
  match Template.single? raw with
  | none => { plan with edits := plan.edits ++ [edit] }
  | some name =>
    if isBuiltin name then plan
    else
      match propertySlots r edit.module name with
      | [] =>
        { plan with
          report := plan.report.warn .unresolvedProperty (some (r.artifact edit.module))
            ("cannot update " ++ Template.referenceText name ++ " to " ++ edit.new
              ++ ": property not declared in the reactor") }
      | slots =>
        { plan with
          properties := slots.foldl (fun t slot => t.insert slot edit.new) plan.properties }

/-- The version text of a declared parent and its new version, if the parent is re-versioned. -/
def parentEdit? (changes : VersionChanges) (r : Reactor) (id : Nat) : Option (String × Edit) := do
  let parent ← (r.module id).parent
  let new ← changes.get? (parent.artifact.at (r.resolve id parent.version))
  some (parent.version, { module := id, site := .parent, new })

/-- The new version of a declaration of a dependency, if the coordinate it names is changed. -/
def entryEdit? (changes : VersionChanges) (r : Reactor) (id : Nat) (d : Declaration) :
    Option (String × Edit) := do
  let raw ← d.version
  let artifact := r.declaredArtifact id d
  let new ← changes.get? (artifact.at (r.resolve id raw))
  some (raw, { module := id, site := .entry d.address artifact, new })

/-- Plans the version of the module itself. A root without a version of its own gets the new one
written into it. -/
def Plan.pushOwn (plan : Plan) (changes : VersionChanges) (r : Reactor) (id : Nat) : Plan :=
  match (r.version? id).bind fun old => changes.get? ((r.artifact id).at old) with
  | none => plan
  | some new =>
    let edit : Edit := { module := id, site := .own, new }
    match (r.module id).version with
    | some raw => plan.push r raw edit
    | none => if r.isRoot id then { plan with edits := plan.edits ++ [edit] } else plan

def Plan.visit (changes : VersionChanges) (r : Reactor) (plan : Plan) (id : Nat) : Plan :=
  let pushAll (plan : Plan) (edits : List (String × Edit)) : Plan :=
    edits.foldl (fun plan e => plan.push r e.1 e.2) plan
  let plan := pushAll plan (parentEdit? changes r id).toList
  let plan := plan.pushOwn changes r id
  pushAll plan ((r.module id).dependencyDeclarations.filterMap (entryEdit? changes r id))

def commitEdit (p : Progress) (e : Edit) : Progress :=
  let r := p.reactor
  let m := r.module e.module
  match e.site with
  | .own =>
    p.edit (r.setVersion e.module e.new) e.module (r.artifact e.module) .moduleVersion m.version
      (some e.new)
  | .parent =>
    p.edit (r.setParentVersion e.module e.new) e.module (r.artifact e.module) .parentVersion
      (m.parent.map Parent.version) (some e.new)
  | .entry address artifact =>
    p.edit (r.setSlot e.module address e.new) e.module (r.artifact e.module)
      (.declaration address artifact) (m.slot? address).join (some e.new)

def commitProperty (p : Progress) (item : PropertySlot × String) : Progress :=
  let r := p.reactor
  let (slot, new) := item
  p.edit (r.setProperty slot.module slot.scope slot.name new) slot.module (r.artifact slot.module)
    (.property slot.name) ((r.module slot.module).property? slot.scope slot.name) (some new)

/-- Writes the changes into the reactor: the edits in the order of their planning, then the
properties in the order of their slots. -/
def apply (changes : VersionChanges) (r : Reactor) (report : Report) : Progress :=
  if changes.isEmpty then { reactor := r, report }
  else
    let plan := r.order.foldl (Plan.visit changes r) { report }
    let p := plan.edits.foldl commitEdit { reactor := r, report := plan.report }
    plan.properties.entries.foldl commitProperty p

end VersionChanges

end BuildAlign
