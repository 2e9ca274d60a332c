import BuildAlign.Coordinate.Basic

/-!
Modules and what they declare. A module has its own coordinate, a declared parent, and bodies: the
main one and one for each profile. A body holds the version-bearing collections (dependencies,
managed dependencies, plugins, managed plugins) and the properties.
-/

namespace BuildAlign

/-- The group of plugins that do not declare one. -/
def defaultPluginGroup : String :=
  "org.apache.maven.plugins"

def pomPackaging : String :=
  "pom"

structure Dependency where
  group : String
  name : String
  version : Option String := none
  kind : String := defaultKind
  classifier : Option String := none
  scope : Option String := none
  deriving DecidableEq, Repr, Inhabited

structure Plugin where
  group : String
  name : String
  version : Option String := none
  dependencies : List Dependency := []
  deriving DecidableEq, Repr, Inhabited

abbrev Properties := Table String String

/-- The part that a module and each of its profiles have in common. -/
structure Body where
  dependencies : List Dependency := []
  managedDependencies : List Dependency := []
  plugins : List Plugin := []
  managedPlugins : List Plugin := []
  properties : Properties := ∅
  deriving DecidableEq, Repr, Inhabited

/-- A body that is active only when its profile is. -/
structure Profile where
  id : String
  body : Body := {}
  deriving DecidableEq, Repr, Inhabited

/-- A parent as a module declares it; it may be a module of the build or an external one. -/
structure Parent where
  group : String
  name : String
  version : String
  deriving DecidableEq, Repr, Inhabited

/-- One module. `parentModule` is the index of the parent among the modules of the build, for a
parent that is one of them. -/
structure Module where
  group : Option String := none
  name : String
  version : Option String := none
  packaging : String := defaultKind
  parent : Option Parent := none
  parentModule : Option Nat := none
  body : Body := {}
  profiles : List Profile := []
  deriving DecidableEq, Repr, Inhabited

def Parent.artifact (p : Parent) : Artifact :=
  { group := p.group, name := p.name }

/-- The main body, or the body of the profile at an index. -/
inductive Scope where
  | main
  | profile (index : Nat)
  deriving DecidableEq, Repr

namespace Scope

/-- The place of a scope in the order of look-up. -/
def rank : Scope → Nat
  | main => 0
  | profile i => i + 1

instance : Ord Scope := ⟨compareOn rank⟩

instance : Key Scope where
  trans := inferInstanceAs (Std.TransCmp (compareOn rank))
  lawful :=
    { compare_self := @Std.ReflCmp.compare_self _ (compareOn rank) _
      eq_of_compare := fun {a b} h => by
        have hr : compare (rank a) (rank b) = .eq := h
        have h' : rank a = rank b := Std.LawfulEqCmp.eq_of_compare hr
        cases a <;> cases b <;> simp_all [rank] }

end Scope

namespace Module

def writtenGroup (m : Module) : Option String :=
  m.group.or (m.parent.map Parent.group)

/-- The version as written, or else that of the declared parent. -/
def writtenVersion (m : Module) : Option String :=
  m.version.or (m.parent.map Parent.version)

def isPom (m : Module) : Bool :=
  m.packaging == pomPackaging

/-- Every body with its scope, in the order of look-up: the main one first. -/
def bodies (m : Module) : List (Scope × Body) :=
  (.main, m.body) :: m.profiles.mapIdx fun i p => (.profile i, p.body)

def body? (m : Module) : Scope → Option Body
  | .main => some m.body
  | .profile i => (m.profiles[i]?).map Profile.body

/-- Changes the body of a scope. A module without that scope stays as it is. -/
def modifyBody (m : Module) (edit : Body → Body) : Scope → Module
  | .main => { m with body := edit m.body }
  | .profile i => { m with profiles := m.profiles.modify i fun p => { p with body := edit p.body } }

@[simp] theorem parentModule_modifyBody (m : Module) (edit : Body → Body) (scope : Scope) :
    (m.modifyBody edit scope).parentModule = m.parentModule := by
  cases scope <;> rfl

/-- The value of a property declared in this module itself, with the scope that declares it. -/
def ownProperty? (m : Module) (name : String) : Option (Scope × String) :=
  m.bodies.findSome? fun (scope, body) => (body.properties.get? name).map (scope, ·)

def property? (m : Module) (scope : Scope) (name : String) : Option String :=
  (m.body? scope).bind (·.properties.get? name)

def setProperty (m : Module) (scope : Scope) (name value : String) : Module :=
  m.modifyBody (fun b => { b with properties := b.properties.insert name value }) scope

end Module

end BuildAlign
