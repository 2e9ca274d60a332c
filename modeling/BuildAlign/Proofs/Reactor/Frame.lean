import BuildAlign.Alignment.PropertyLedger
import BuildAlign.Proofs.Module.Declarations
import BuildAlign.Proofs.Reactor.AliasPath

/-!
What stays when declared versions change. Two reactors have the same frame if their modules differ
at most in the versions of declared parents and in what their bodies declare besides properties.
Then they have the same walks to the root, and every property lives in the same place.
-/

namespace BuildAlign

/-! ## Modules -/

namespace Module

/-- Two modules with the same coordinate, as far as it is written in the module itself. -/
structure SameCoordinate (m m' : Module) : Prop where
  group : m'.group = m.group
  name : m'.name = m.name
  version : m'.version = m.version
  parent : m'.parent.map Parent.artifact = m.parent.map Parent.artifact

/-- Two modules that differ at most in the version of the declared parent and in what the bodies
declare besides properties. -/
structure SameFrame (m m' : Module) : Prop extends SameCoordinate m m' where
  parentModule : m'.parentModule = m.parentModule
  properties : ∀ name, m'.ownProperty? name = m.ownProperty? name

def withParentVersion (version : String) (m : Module) : Module :=
  { m with parent := m.parent.map fun p => { p with version } }

theorem SameCoordinate.refl (m : Module) : m.SameCoordinate m :=
  ⟨rfl, rfl, rfl, rfl⟩

theorem SameCoordinate.trans {m m' m'' : Module} (h : m.SameCoordinate m')
    (h' : m'.SameCoordinate m'') : m.SameCoordinate m'' :=
  ⟨h'.group.trans h.group, h'.name.trans h.name, h'.version.trans h.version,
    h'.parent.trans h.parent⟩

theorem SameCoordinate.symm {m m' : Module} (h : m.SameCoordinate m') : m'.SameCoordinate m :=
  ⟨h.group.symm, h.name.symm, h.version.symm, h.parent.symm⟩

theorem SameFrame.refl (m : Module) : m.SameFrame m :=
  ⟨.refl m, rfl, fun _ => rfl⟩

theorem SameFrame.symm {m m' : Module} (h : m.SameFrame m') : m'.SameFrame m :=
  ⟨h.toSameCoordinate.symm, h.parentModule.symm, fun name => (h.properties name).symm⟩

theorem SameFrame.trans {m m' m'' : Module} (h : m.SameFrame m') (h' : m'.SameFrame m'') :
    m.SameFrame m'' :=
  ⟨h.toSameCoordinate.trans h'.toSameCoordinate, h'.parentModule.trans h.parentModule,
    fun name => (h'.properties name).trans (h.properties name)⟩

theorem sameCoordinate_modifyBody (m : Module) (edit : Body → Body) (scope : Scope) :
    m.SameCoordinate (m.modifyBody edit scope) := by
  cases scope <;> exact ⟨rfl, rfl, rfl, rfl⟩

theorem parent_modifyBody (m : Module) (edit : Body → Body) (scope : Scope) :
    (m.modifyBody edit scope).parent = m.parent := by
  cases scope <;> rfl

theorem sameFrame_modifyBody (m : Module) {edit : Body → Body}
    (hedit : ∀ b, (edit b).properties = b.properties) (scope : Scope) :
    m.SameFrame (m.modifyBody edit scope) :=
  ⟨m.sameCoordinate_modifyBody edit scope, m.parentModule_modifyBody edit scope,
    m.ownProperty?_modifyBody hedit scope⟩

theorem properties_setSlot (b : Body) (version : String) (c : Collection) (i : Nat) :
    (b.setSlot version c i).properties = b.properties := by
  cases c with
  | dependencies | managedDependencies | plugins | managedPlugins => rfl
  | pluginDependencies plugin managed => cases managed <;> rfl

theorem sameFrame_setSlot (m : Module) (a : Address) (version : String) :
    m.SameFrame (m.setSlot a version) :=
  m.sameFrame_modifyBody (fun b => properties_setSlot b version a.collection a.index) a.scope

theorem sameFrame_manage (added : List Dependency) (m : Module) :
    m.SameFrame (m.manage added) := by
  apply sameFrame_modifyBody
  exact fun _ => rfl

theorem sameFrame_withParentVersion (version : String) (m : Module) :
    m.SameFrame (m.withParentVersion version) := by
  refine ⟨⟨rfl, rfl, rfl, ?_⟩, rfl, fun _ => rfl⟩
  rw [withParentVersion, Option.map_map]
  rfl

/-- A part of the coordinate other than the version of the parent is the same. -/
theorem SameCoordinate.part {m m' : Module} (h : m.SameCoordinate m') {part : ProjectPart}
    (hparent : part ≠ .parentVersion) (hversion : part = .version → m.version ≠ none) :
    part.of m' = part.of m := by
  have hgroup : m'.parent.map Parent.group = m.parent.map Parent.group := by
    have := congrArg (Option.map Artifact.group) h.parent
    rwa [Option.map_map, Option.map_map] at this
  cases part with
  | version =>
    obtain ⟨version, hsome⟩ := Option.ne_none_iff_exists'.mp (hversion rfl)
    rw [ProjectPart.of, ProjectPart.of, writtenVersion, writtenVersion, h.version, hsome]
    rfl
  | group => rw [ProjectPart.of, ProjectPart.of, writtenGroup, writtenGroup, h.group, hgroup]
  | name => exact congrArg some h.name
  | parentVersion => exact absurd rfl hparent
  | parentGroup => exact hgroup

/-- Every part of the coordinate is the same if the declared parent is. -/
theorem SameCoordinate.part_of_parent {m m' : Module} (h : m.SameCoordinate m')
    (hparent : m'.parent = m.parent) (part : ProjectPart) : part.of m' = part.of m := by
  cases part with
  | version =>
    rw [ProjectPart.of, ProjectPart.of, writtenVersion, writtenVersion, h.version, hparent]
  | group => rw [ProjectPart.of, ProjectPart.of, writtenGroup, writtenGroup, h.group, hparent]
  | name => exact congrArg some h.name
  | parentVersion | parentGroup => rw [ProjectPart.of, ProjectPart.of, hparent]

end Module

/-! ## Reactors -/

namespace Reactor

/-- Two reactors whose modules have the same frames. -/
structure SameFrame (r r' : Reactor) : Prop where
  size : r'.size = r.size
  modules : ∀ id, (r.module id).SameFrame (r'.module id)

namespace SameFrame

variable {r r' r'' : Reactor}

theorem refl (r : Reactor) : r.SameFrame r :=
  ⟨rfl, fun _ => .refl _⟩

theorem symm (h : r.SameFrame r') : r'.SameFrame r :=
  ⟨h.size.symm, fun id => (h.modules id).symm⟩

theorem trans (h : r.SameFrame r') (h' : r'.SameFrame r'') : r.SameFrame r'' :=
  ⟨h'.size.trans h.size, fun id => (h.modules id).trans (h'.modules id)⟩

theorem sameLinks (h : r.SameFrame r') : r.SameLinks r' :=
  ⟨h.size, fun id => (h.modules id).parentModule⟩

theorem root (h : r.SameFrame r') (id : Nat) : r'.root id = r.root id :=
  h.sameLinks.root id

theorem isRoot (h : r.SameFrame r') (id : Nat) : r'.isRoot id = r.isRoot id := by
  rw [Reactor.isRoot, Reactor.isRoot, h.sameLinks.parent]

theorem nearestPlace? (h : r.SameFrame r') (id : Nat) (name : String) :
    r'.nearestPlace? id name = r.nearestPlace? id name :=
  nearestPlace?_congr h.sameLinks fun m _ => (h.modules m).properties name

theorem readsFrom (h : r.SameFrame r') (id : Nat) (name : String) :
    r'.readsFrom id name = r.readsFrom id name := by
  simp only [Reactor.readsFrom, h.nearestPlace?, h.root]

theorem nextPlace? (h : r.SameFrame r') (id : Nat) (place : PropertyPlace) :
    r'.nextPlace? id place = r.nextPlace? id place := by
  have hnearest : r'.nearestPlace? id = r.nearestPlace? id := funext (h.nearestPlace? id)
  rw [Reactor.nextPlace?, Reactor.nextPlace?, hnearest]

theorem followAliases (h : r.SameFrame r') (id n : Nat) (place : PropertyPlace) :
    r'.followAliases id n place = r.followAliases id n place := by
  induction n generalizing place with
  | zero => rfl
  | succ n ih =>
    rw [Reactor.followAliases, Reactor.followAliases, h.nextPlace?]
    cases r.nextPlace? id place with
    | none => rfl
    | some next => exact ih next

/-- A property lives in the same place. -/
theorem locate? (h : r.SameFrame r') (id : Nat) (name : String) :
    r'.locate? id name = r.locate? id name := by
  have hfollow : r'.followAliases id maxDepth = r.followAliases id maxDepth :=
    funext (h.followAliases id maxDepth)
  rw [Reactor.locate?, Reactor.locate?, h.nearestPlace?, hfollow]

theorem ownerOf (h : r.SameFrame r') (id : Nat) (name : String) :
    PropertyLedger.ownerOf r' id name = PropertyLedger.ownerOf r id name := by
  rw [PropertyLedger.ownerOf, PropertyLedger.ownerOf, h.locate?, h.root]

theorem declaredProperty? (h : r.SameFrame r') (id : Nat) (name : String) :
    r'.declaredProperty? id name = r.declaredProperty? id name := by
  rw [declaredProperty?_eq, declaredProperty?_eq, h.nearestPlace?]

/-- A name that stands for no part of the module is looked up alike. -/
theorem lookup (h : r.SameFrame r') (id : Nat) {name : String}
    (hname : ProjectPart.ofName? name = none) : r'.lookup id name = r.lookup id name := by
  simp only [Reactor.lookup, hname, h.declaredProperty?]

/-- The same texts refer to the version of a module. -/
theorem isOwnVersion (h : r.SameFrame r') (id : Nat) (raw : String) :
    r'.isOwnVersion id raw = r.isOwnVersion id raw := by
  have hfollows : ∀ n raw, r'.followsVersion id n raw = r.followsVersion id n raw := by
    intro n
    induction n with
    | zero => exact fun _ => rfl
    | succ n ih =>
      intro raw
      rw [followsVersion, followsVersion]
      cases Template.single? raw with
      | none => rfl
      | some name =>
        cases hpart : ProjectPart.ofName? name with
        | some part => cases part <;> simp only [hpart, (h.modules id).version]
        | none =>
          simp only [hpart, h.lookup id hpart]
          cases r.lookup id name with
          | none => rfl
          | some next => exact ih next
  exact hfollows maxDepth raw

end SameFrame

/-- A change of one module that keeps its frame keeps that of the reactor. -/
theorem sameFrame_modify (r : Reactor) {id : Nat} (hid : id < r.size) (edit : Module → Module)
    (keeps : ∀ m, (edit m).parentModule = m.parentModule)
    (hedit : (r.module id).SameFrame (edit (r.module id))) :
    r.SameFrame (r.modify id edit keeps) := by
  refine ⟨(r.sameLinks_modify hid edit keeps).size, fun id' => ?_⟩
  rw [r.module_modify hid]
  split
  · rename_i heq
    rw [heq]
    exact hedit
  · exact .refl _

end Reactor

end BuildAlign
