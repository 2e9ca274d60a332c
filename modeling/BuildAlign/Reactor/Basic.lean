import BuildAlign.Module.Declaration

/-!
The reactor: all modules that take part in one build, with links from modules to their parents. The
links form a forest. `Reactor.ofModules` accepts exactly the lists whose links do, and a reactor
carries the proof, so that every walk along the links ends at a root.
-/

namespace BuildAlign

/-- The parent links of a list of modules. -/
abbrev Links := List (Option Nat)

namespace Links

def parent? (links : Links) (i : Nat) : Option Nat :=
  (links[i]?).join

/-- Whether the walk from `current` comes back to `start`, or does not end within `n` steps. -/
def comesBack (links : Links) (start : Nat) : Nat → Option Nat → Bool
  | _, none => false
  | 0, some _ => true
  | n + 1, some p => p == start || comesBack links start n (links.parent? p)

def leadsOut (links : Links) (link : Option Nat) : Bool :=
  link.any (links.length ≤ ·)

/-- Links that form a forest: there is a module, every link stays in the list, and no walk along the
links comes back to its start. -/
structure Forest (links : Links) : Prop where
  nonempty : links ≠ []
  inside : ∀ link ∈ links, leadsOut links link = false
  ends : ∀ i ∈ List.range links.length,
    comesBack links i links.length (links.parent? i) = false

end Links

/-- Why a list of modules is no reactor. -/
inductive ReactorFault where
  | noModules
  | parentOutside (module : Nat) (name : String) (parent count : Nat)
  | cycle (module : Nat) (name : String)
  deriving DecidableEq, Repr

def ReactorFault.message : ReactorFault → String
  | noModules => "no modules"
  | parentOutside i name parent count =>
    "module #" ++ toString i ++ " (" ++ name ++ ") has parent index " ++ toString parent
      ++ " but the reactor has " ++ toString count ++ " modules"
  | cycle i name => "inheritance cycle through module #" ++ toString i ++ " (" ++ name ++ ")"

/-- The modules of one build, with parent links that form a forest. -/
structure Reactor where
  modules : List Module
  forest : Links.Forest (modules.map Module.parentModule)

namespace Reactor

instance : DecidableEq Reactor := fun r s =>
  decidable_of_iff (r.modules = s.modules) <| by cases r; cases s; simp

instance : Repr Reactor := ⟨fun r n => reprPrec r.modules n⟩

def strayModule? (modules : List Module) : Option (Module × Nat) :=
  modules.zipIdx.find? fun (m, _) =>
    Links.leadsOut (modules.map Module.parentModule) m.parentModule

/-- The first index whose walk to the root comes back. -/
def cyclicModule? (links : Links) : Option Nat :=
  (List.range links.length).find? fun i => links.comesBack i links.length (links.parent? i)

/-- The checks of the program are sufficient: links that lead to modules of the list and do not come
back form a forest. -/
theorem forest_of_checks {modules : List Module} (hne : modules ≠ [])
    (hin : strayModule? modules = none)
    (hends : cyclicModule? (modules.map Module.parentModule) = none) :
    Links.Forest (modules.map Module.parentModule) where
  nonempty := by simpa using hne
  inside := by
    intro link hlink
    obtain ⟨m, hm, rfl⟩ := List.mem_map.1 hlink
    obtain ⟨i, hi, rfl⟩ := List.mem_iff_getElem.1 hm
    have := List.find?_eq_none.1 hin (modules[i], i)
      (by rw [List.mem_zipIdx_iff_getElem?]; simp [hi])
    simpa using this
  ends := by
    intro i hi
    simpa using List.find?_eq_none.1 hends i hi

/-- Makes a reactor of a list of modules, or says what is wrong with the list. Links that lead out
of the list are found before cycles, and of several faults the one with the least index. -/
def ofModules (modules : List Module) : Except ReactorFault Reactor :=
  if hne : modules = [] then .error .noModules
  else
    match hin : strayModule? modules with
    | some (m, i) =>
      .error (.parentOutside i m.name (m.parentModule.getD 0) modules.length)
    | none =>
      match hends : cyclicModule? (modules.map Module.parentModule) with
      | some i => .error (.cycle i ((modules[i]?).map Module.name |>.getD ""))
      | none => .ok ⟨modules, forest_of_checks hne hin hends⟩

def size (r : Reactor) : Nat :=
  r.modules.length

def ids (r : Reactor) : List Nat :=
  List.range r.size

/-- The module at an index; a blank one where there is none. -/
def module (r : Reactor) (id : Nat) : Module :=
  (r.modules[id]?).getD default

/-- The parent of a module inside the reactor. -/
def parent? (r : Reactor) (id : Nat) : Option Nat :=
  (r.module id).parentModule

def isRoot (r : Reactor) (id : Nat) : Bool :=
  (r.parent? id).isNone

/-- The walk from a module along at most `n` parent links. -/
def chainUpTo (r : Reactor) : Nat → Nat → List Nat
  | 0, id => [id]
  | n + 1, id =>
    id :: match r.parent? id with
      | none => []
      | some p => r.chainUpTo n p

/-- A module followed by its ancestors inside the reactor, the nearest first. -/
def chain (r : Reactor) (id : Nat) : List Nat :=
  r.chainUpTo r.size id

/-- The topmost ancestor of a module inside the reactor, possibly the module itself. -/
def root (r : Reactor) (id : Nat) : Nat :=
  (r.chain id).getLastD id

/-- The modules in the order in which they are visited: roots first, then by depth, and by index
within a depth. -/
def order (r : Reactor) : List Nat :=
  r.ids.flatMap fun depth => r.ids.filter fun id => (r.chain id).length == depth + 1

def modify (r : Reactor) (id : Nat) (edit : Module → Module)
    (keeps : ∀ m, (edit m).parentModule = m.parentModule) : Reactor where
  modules := r.modules.modify id edit
  forest := by
    have : (r.modules.modify id edit).map Module.parentModule
        = r.modules.map Module.parentModule := by
      apply List.ext_getElem (by simp)
      intro i h₁ h₂
      simp only [List.getElem_map, List.getElem_modify]
      split <;> simp [keeps]
    rw [this]
    exact r.forest

def setVersion (r : Reactor) (id : Nat) (version : String) : Reactor :=
  r.modify id (fun m => { m with version := some version }) fun _ => rfl

def setParentVersion (r : Reactor) (id : Nat) (version : String) : Reactor :=
  r.modify id (fun m => { m with parent := m.parent.map fun p => { p with version } }) fun _ => rfl

def modifyBody (r : Reactor) (id : Nat) (scope : Scope) (edit : Body → Body) : Reactor :=
  r.modify id (fun m => m.modifyBody edit scope) fun m => m.parentModule_modifyBody edit scope

def setSlot (r : Reactor) (id : Nat) (a : Address) (version : String) : Reactor :=
  r.modify id (fun m => m.setSlot a version) fun m => m.parentModule_modifyBody _ a.scope

def setProperty (r : Reactor) (id : Nat) (scope : Scope) (name value : String) : Reactor :=
  r.modify id (fun m => m.setProperty scope name value) fun m => m.parentModule_modifyBody _ scope

end Reactor

end BuildAlign
