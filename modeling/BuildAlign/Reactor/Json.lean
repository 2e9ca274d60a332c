import BuildAlign.Json.Record
import BuildAlign.Reactor.Basic

/-!
Snapshots of reactors in JSON. Reading fills in the defaults of what is left out and ignores unknown
members; writing leaves out what is absent or empty and always writes packaging and type.
-/

namespace BuildAlign

open Json (Record)

def Body.fieldNames : List String :=
  ["dependencies", "managedDependencies", "plugins", "managedPlugins", "properties"]

namespace Dependency

def ofJson? (x : Json) : Option Dependency := do
  let r ← x.record? ["groupId", "artifactId", "version", "type", "classifier", "scope"]
  let group ← r.required "groupId" Json.text?
  let name ← r.required "artifactId" Json.text?
  let version ← r.nullable "version"
  let kind ← r.withDefault "type" Json.text? defaultKind
  let classifier ← r.nullable "classifier"
  let scope ← r.nullable "scope"
  some { group, name, version, kind, classifier, scope }

def toJson (d : Dependency) : Json :=
  .object <|
    [("groupId", .text d.group), ("artifactId", .text d.name)]
      ++ Json.optional "version" (d.version.map .text) ++ [("type", .text d.kind)]
      ++ Json.optional "classifier" (d.classifier.map .text)
      ++ Json.optional "scope" (d.scope.map .text)

end Dependency

/-- A member for a list, left out when the list is empty. -/
def Json.listMember {α : Type} (name : String) (write : α → Json) (items : List α) :
    List (String × Json) :=
  if items.isEmpty then [] else [(name, .list (items.map write))]

namespace Plugin

def ofJson? (x : Json) : Option Plugin := do
  let r ← x.record? ["groupId", "artifactId", "version", "dependencies"]
  let group ← r.withDefault "groupId" Json.text? defaultPluginGroup
  let name ← r.required "artifactId" Json.text?
  let version ← r.nullable "version"
  let dependencies ← r.withDefault "dependencies" (Json.listOf? Dependency.ofJson?) []
  some { group, name, version, dependencies }

def toJson (p : Plugin) : Json :=
  .object <|
    [("groupId", .text p.group), ("artifactId", .text p.name)]
      ++ Json.optional "version" (p.version.map .text)
      ++ Json.listMember "dependencies" Dependency.toJson p.dependencies

end Plugin

namespace Body

/-- Reads the collections among the fields of a module or profile. -/
def ofRecord? (r : Record) : Option Body := do
  let dependencies ← r.withDefault "dependencies" (Json.listOf? Dependency.ofJson?) []
  let managedDependencies ←
    r.withDefault "managedDependencies" (Json.listOf? Dependency.ofJson?) []
  let plugins ← r.withDefault "plugins" (Json.listOf? Plugin.ofJson?) []
  let managedPlugins ← r.withDefault "managedPlugins" (Json.listOf? Plugin.ofJson?) []
  let properties ← r.withDefault "properties" (Json.tableOf? Json.text?) ∅
  some { dependencies, managedDependencies, plugins, managedPlugins, properties }

def toRecord (b : Body) : Record :=
  Json.listMember "dependencies" Dependency.toJson b.dependencies
    ++ Json.listMember "managedDependencies" Dependency.toJson b.managedDependencies
    ++ Json.listMember "plugins" Plugin.toJson b.plugins
    ++ Json.listMember "managedPlugins" Plugin.toJson b.managedPlugins
    ++ if b.properties.isEmpty then []
      else [("properties", .object (b.properties.entries.map fun e => (e.1, .text e.2)))]

end Body

namespace Profile

def ofJson? (x : Json) : Option Profile := do
  let r ← x.fields? ("id" :: Body.fieldNames)
  let id ← r.required "id" Json.text?
  let body ← Body.ofRecord? r
  some { id, body }

def toJson (p : Profile) : Json :=
  .object (("id", .text p.id) :: p.body.toRecord)

end Profile

namespace Parent

def ofJson? (x : Json) : Option Parent := do
  let r ← x.record? ["groupId", "artifactId", "version"]
  let group ← r.required "groupId" Json.text?
  let name ← r.required "artifactId" Json.text?
  let version ← r.required "version" Json.text?
  some { group, name, version }

def toJson (p : Parent) : Json :=
  .object [("groupId", .text p.group), ("artifactId", .text p.name), ("version", .text p.version)]

end Parent

def Json.nullable? {α : Type} (read : Json → Option α) : Json → Option (Option α)
  | .null => some none
  | x => (read x).map some

namespace Module

def fieldNames : List String :=
  ["groupId", "artifactId", "version", "packaging", "parent", "parentModule", "profiles"]

def ofJson? (x : Json) : Option Module := do
  let r ← x.fields? (fieldNames ++ Body.fieldNames)
  let group ← r.nullable "groupId"
  let name ← r.required "artifactId" Json.text?
  let version ← r.nullable "version"
  let packaging ← r.withDefault "packaging" Json.text? defaultKind
  let parent ← r.withDefault "parent" (Json.nullable? Parent.ofJson?) none
  let parentModule ← r.withDefault "parentModule" (Json.nullable? Json.natural?) none
  let body ← Body.ofRecord? r
  let profiles ← r.withDefault "profiles" (Json.listOf? Profile.ofJson?) []
  some { group, name, version, packaging, parent, parentModule, body, profiles }

def toJson (m : Module) : Json :=
  .object <|
    Json.optional "groupId" (m.group.map .text) ++ [("artifactId", .text m.name)]
      ++ Json.optional "version" (m.version.map .text) ++ [("packaging", .text m.packaging)]
      ++ Json.optional "parent" (m.parent.map Parent.toJson)
      ++ Json.optional "parentModule" (m.parentModule.map .natural)
      ++ m.body.toRecord ++ Json.listMember "profiles" Profile.toJson m.profiles

end Module

namespace Reactor

def modulesOfJson? (x : Json) : Option (List Module) := do
  let r ← x.record? ["modules"]
  r.required "modules" (Json.listOf? Module.ofJson?)

/-- Reads a snapshot: nothing if it has another structure, and a fault if its modules are no
reactor. -/
def ofJson? (x : Json) : Option (Except ReactorFault Reactor) :=
  (modulesOfJson? x).map ofModules

def toJson (r : Reactor) : Json :=
  .object [("modules", .list (r.modules.map Module.toJson))]

end Reactor

end BuildAlign
