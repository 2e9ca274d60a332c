import BuildAlign.Module.Basic

/-!
Declarations and their addresses. An address names a scope, a collection of its body and an index;
the entry there carries a version text or none. `Module.slot?` reads the text at an address,
`Module.setSlot` writes it, and `Module.declarations` lists all addresses in the order in which
they are aligned.
-/

namespace BuildAlign

/-- A collection of version-bearing entries in a body. The dependencies of the plugin at an index
are a collection of their own. -/
inductive Collection where
  | dependencies
  | managedDependencies
  | plugins
  | managedPlugins
  | pluginDependencies (plugin : Nat) (managed : Bool)
  deriving DecidableEq, Repr

structure Address where
  scope : Scope
  collection : Collection
  index : Nat
  deriving DecidableEq, Repr

/-- What an entry declares, as written, with its address. -/
structure Declaration where
  address : Address
  group : String
  name : String
  version : Option String
  kind : String
  classifier : Option String
  deriving DecidableEq, Repr

def pluginKind : String :=
  "maven-plugin"

namespace Address

def indexText (i : Nat) : String :=
  "[" ++ toString i ++ "]"

/-- The address as text, such as `profiles[0].managedPlugins[1].dependencies[2]`. -/
def text (a : Address) : String :=
  (match a.scope with
    | .main => ""
    | .profile i => "profiles" ++ indexText i ++ ".")
  ++ (match a.collection with
    | .dependencies => "dependencies"
    | .managedDependencies => "managedDependencies"
    | .plugins => "plugins"
    | .managedPlugins => "managedPlugins"
    | .pluginDependencies plugin managed =>
      (if managed then "managedPlugins" else "plugins") ++ indexText plugin ++ ".dependencies")
  ++ indexText a.index

end Address

namespace Body

def pluginList (b : Body) (managed : Bool) : List Plugin :=
  if managed then b.managedPlugins else b.plugins

def modifyPlugins (b : Body) (managed : Bool) (edit : List Plugin → List Plugin) : Body :=
  if managed then { b with managedPlugins := edit b.managedPlugins }
  else { b with plugins := edit b.plugins }

/-- The version text of an entry; nothing if the collection has no such entry. -/
def slot? (b : Body) : Collection → Nat → Option (Option String)
  | .dependencies, i => (b.dependencies[i]?).map Dependency.version
  | .managedDependencies, i => (b.managedDependencies[i]?).map Dependency.version
  | .plugins, i => (b.plugins[i]?).map Plugin.version
  | .managedPlugins, i => (b.managedPlugins[i]?).map Plugin.version
  | .pluginDependencies plugin managed, i =>
    ((b.pluginList managed)[plugin]?).bind fun p => (p.dependencies[i]?).map Dependency.version

/-- Writes the version text of an entry. A body without that entry stays as it is. -/
def setSlot (b : Body) (version : String) : Collection → Nat → Body
  | .dependencies, i => { b with dependencies := setAt b.dependencies i }
  | .managedDependencies, i => { b with managedDependencies := setAt b.managedDependencies i }
  | .plugins, i => b.modifyPlugins false (setPluginAt · i)
  | .managedPlugins, i => b.modifyPlugins true (setPluginAt · i)
  | .pluginDependencies plugin managed, i =>
    b.modifyPlugins managed fun ps =>
      ps.modify plugin fun p => { p with dependencies := setAt p.dependencies i }
where
  setAt (ds : List Dependency) (i : Nat) : List Dependency :=
    ds.modify i fun d => { d with version := some version }
  setPluginAt (ps : List Plugin) (i : Nat) : List Plugin :=
    ps.modify i fun p => { p with version := some version }

end Body

namespace Declaration

def ofDependency (address : Address) (d : Dependency) : Declaration :=
  { address, group := d.group, name := d.name, version := d.version, kind := d.kind
    classifier := d.classifier }

def ofPlugin (address : Address) (p : Plugin) : Declaration :=
  { address, group := p.group, name := p.name, version := p.version, kind := pluginKind
    classifier := none }

def isPlugin (d : Declaration) : Bool :=
  match d.address.collection with
  | .plugins | .managedPlugins => true
  | _ => false

end Declaration

namespace Module

def listDependencies (scope : Scope) (collection : Collection) (ds : List Dependency) :
    List Declaration :=
  ds.mapIdx fun index d => .ofDependency { scope, collection, index } d

def listPlugins (scope : Scope) (collection : Collection) (ps : List Plugin) : List Declaration :=
  ps.mapIdx fun index p => .ofPlugin { scope, collection, index } p

def listPluginDependencies (scope : Scope) (managed : Bool) (ps : List Plugin) :
    List Declaration :=
  (ps.mapIdx fun plugin p =>
    listDependencies scope (.pluginDependencies plugin managed) p.dependencies).flatten

def dependencyDeclarations (m : Module) : List Declaration :=
  m.bodies.flatMap fun (scope, b) =>
    listDependencies scope .managedDependencies b.managedDependencies
      ++ listDependencies scope .dependencies b.dependencies

/-- Every declaration in the order of alignment: dependencies, then plugins, then the dependencies
of plugins, each kind body after body. -/
def declarations (m : Module) : List Declaration :=
  m.dependencyDeclarations
    ++ (m.bodies.flatMap fun (scope, b) =>
      listPlugins scope .plugins b.plugins ++ listPlugins scope .managedPlugins b.managedPlugins)
    ++ (m.bodies.flatMap fun (scope, b) =>
      listPluginDependencies scope false b.plugins
        ++ listPluginDependencies scope true b.managedPlugins)

/-- The version text at an address; nothing if the module has no entry there. -/
def slot? (m : Module) (a : Address) : Option (Option String) :=
  (m.body? a.scope).bind fun b => b.slot? a.collection a.index

/-- Writes the version text at an address. A module without that entry stays as it is. -/
def setSlot (m : Module) (a : Address) (version : String) : Module :=
  m.modifyBody (fun b => b.setSlot version a.collection a.index) a.scope

end Module

end BuildAlign
