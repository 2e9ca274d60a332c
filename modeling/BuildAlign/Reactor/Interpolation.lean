import BuildAlign.Reactor.Basic
import BuildAlign.Template

/-!
Interpolation in the context of a module. A few names stand for parts of the module's own
coordinate; every other name is a property, looked for in the module and then in its ancestors.
References are expanded recursively up to a bounded depth, and what cannot be resolved is left as
it is written.
-/

namespace BuildAlign

/-- The parts of a module that are referenced by name. -/
inductive ProjectPart where
  | version
  | group
  | name
  | parentVersion
  | parentGroup
  deriving DecidableEq, Repr

namespace ProjectPart

def ofName? : String → Option ProjectPart
  | "project.version" | "pom.version" | "version" => some version
  | "project.groupId" => some group
  | "project.artifactId" => some name
  | "project.parent.version" | "parent.version" => some parentVersion
  | "project.parent.groupId" => some parentGroup
  | _ => none

def of (m : Module) : ProjectPart → Option String
  | version => m.writtenVersion
  | group => m.writtenGroup
  | name => some m.name
  | parentVersion => m.parent.map Parent.version
  | parentGroup => m.parent.map Parent.group

end ProjectPart

/-- Whether a name stands for a part of the module and is never looked up as a property. -/
def isBuiltin (name : String) : Bool :=
  (ProjectPart.ofName? name).isSome

/-- The name of a property that is the whole text, unless the name is built in. -/
def propertyOf? (raw : String) : Option String :=
  (Template.single? raw).filter fun name => !isBuiltin name

namespace Reactor

/-- How many references deep a text is expanded, and how many aliases are followed. -/
def maxDepth : Nat :=
  16

/-- The value of a property for a module: its own or that of the nearest ancestor with it. -/
def declaredProperty? (r : Reactor) (id : Nat) (name : String) : Option String :=
  (r.chain id).findSome? fun m => ((r.module m).ownProperty? name).map Prod.snd

/-- The text that a name stands for in a module, as written. -/
def lookup (r : Reactor) (id : Nat) (name : String) : Option String :=
  match ProjectPart.ofName? name with
  | some part => part.of (r.module id)
  | none => r.declaredProperty? id name

/-- Expands the references of a text, their values again, and so on `depth` times. -/
def expand (r : Reactor) (id : Nat) : Nat → List Char → List Char
  | 0, raw => raw
  | depth + 1, raw =>
    (Template.pieces raw).flatMap fun
      | .plain text => text
      | .reference name =>
        match r.lookup id (String.ofList name) with
        | some value => r.expand id depth value.toList
        | none => Template.reference name

/-- The text with all references expanded in the context of a module. -/
def resolve (r : Reactor) (id : Nat) (raw : String) : String :=
  String.ofList (r.expand id (maxDepth + 1) raw.toList)

/-- The identity of a module, interpolated. -/
def artifact (r : Reactor) (id : Nat) : Artifact where
  group := ((r.module id).writtenGroup.map (r.resolve id)).getD ""
  name := r.resolve id (r.module id).name

/-- The version of a module, own or inherited, interpolated. -/
def version? (r : Reactor) (id : Nat) : Option String :=
  (r.module id).writtenVersion.map (r.resolve id)

def artifacts (r : Reactor) : KeySet Artifact :=
  .ofList (r.ids.map r.artifact)

def declaredArtifact (r : Reactor) (id : Nat) (d : Declaration) : Artifact where
  group := r.resolve id d.group
  name := r.resolve id d.name

end Reactor

end BuildAlign
