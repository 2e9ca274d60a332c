import BuildAlign.Json.Basic
import BuildAlign.Report

/-!
Reports in JSON.
-/

namespace BuildAlign

def Scope.toJson : Scope → Json
  | main => .text "main"
  | profile i => .object [("profile", .natural i)]

/-- The word for a collection; the dependencies of a plugin with its place. -/
def Collection.toJson : Collection → Json
  | dependencies => .text "dependencies"
  | managedDependencies => .text "managed-dependencies"
  | plugins => .text "plugins"
  | managedPlugins => .text "managed-plugins"
  | pluginDependencies plugin managed =>
    .object [("plugin-dependencies",
      .object [("plugin", .natural plugin), ("managed", .bool managed)])]

def Address.toJson (a : Address) : Json :=
  .object [("scope", a.scope.toJson), ("section", a.collection.toJson),
    ("index", .natural a.index)]

def ChangeTarget.toJson (target : ChangeTarget) : Json :=
  let (kind, members) : String × List (String × Json) :=
    match target with
    | moduleVersion => ("module-version", [])
    | parentVersion => ("parent-version", [])
    | declaration address artifact =>
      ("declaration", [("path", address.toJson), ("ga", .text artifact.text)])
    | property name => ("property", [("name", .text name)])
    | injectedManaged artifact => ("injected-managed", [("ga", .text artifact.text)])
    | removedPlugin artifact => ("removed-plugin", [("ga", .text artifact.text)])
    | removedProfile id => ("removed-profile", [("id", .text id)])
  .object (("kind", .text kind) :: members)

/-- A change; a text before or after it that is not there is left out. -/
def Change.toJson (c : Change) : Json :=
  .object <|
    [("module", .natural c.module), ("module_ga", .text c.artifact.text),
      ("target", c.target.toJson)]
      ++ Json.optional "old" (c.old.map .text) ++ Json.optional "new" (c.new.map .text)

/-- A warning; a module that is not there is left out. -/
def Warning.toJson (w : Warning) : Json :=
  .object <|
    [("kind", .text w.kind.word)]
      ++ Json.optional "module" (w.module.map fun m => .text m.text)
      ++ [("message", .text w.message)]

def Report.toJson (r : Report) : Json :=
  .object
    [("changes", .list (r.changes.map Change.toJson)),
      ("warnings", .list (r.warnings.map Warning.toJson)),
      ("outcomes", .object (r.outcomes.entries.map fun e => (e.1, .natural e.2)))]

end BuildAlign
