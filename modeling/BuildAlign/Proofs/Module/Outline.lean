import BuildAlign.Proofs.Reactor.Frame

/-!
What a module is apart from its properties, apart from the versions of its entries, and apart from
all versions that it declares and the properties: its own coordinate, the declared parent, and the
collections of every body with the identities of their entries in order. Writing a property leaves
the first as it is, and writing a version text the others.
-/

namespace BuildAlign

/-- An edit of one entry that a map does not tell from the entry is not seen by the map. -/
theorem map_modify_of_eq {α β : Type} {f : α → β} {edit : α → α} (h : ∀ a, f (edit a) = f a)
    (xs : List α) (i : Nat) : (xs.modify i edit).map f = xs.map f := by
  refine List.ext_getElem (by simp) fun j _ _ => ?_
  rw [List.getElem_map, List.getElem_map, List.getElem_modify]
  split
  · exact h _
  · rfl

def Module.withoutProperties (m : Module) : Module :=
  { m with
    body := { m.body with properties := ∅ }
    profiles := m.profiles.map fun p => { p with body := { p.body with properties := ∅ } } }

theorem Module.withoutProperties_setProperty (m : Module) (scope : Scope) (name value : String) :
    (m.setProperty scope name value).withoutProperties = m.withoutProperties := by
  cases scope with
  | main => rfl
  | profile i =>
    refine congrArg (Module.mk _ _ _ _ _ _ _) (map_modify_of_eq ?_ m.profiles i)
    exact fun _ => rfl

/-! ## Without versions -/

def Dependency.unversioned (d : Dependency) : Dependency :=
  { d with version := none }

def Plugin.unversioned (p : Plugin) : Plugin :=
  { p with version := none, dependencies := p.dependencies.map Dependency.unversioned }

namespace Body

def unversioned (b : Body) : Body :=
  { b with
    dependencies := b.dependencies.map Dependency.unversioned
    managedDependencies := b.managedDependencies.map Dependency.unversioned
    plugins := b.plugins.map Plugin.unversioned
    managedPlugins := b.managedPlugins.map Plugin.unversioned }

/-- The collections without the versions of their entries. -/
def outline (b : Body) : Body where
  dependencies := b.dependencies.map Dependency.unversioned
  managedDependencies := b.managedDependencies.map Dependency.unversioned
  plugins := b.plugins.map Plugin.unversioned
  managedPlugins := b.managedPlugins.map Plugin.unversioned

theorem unversioned_setAt (ds : List Dependency) (version : String) (i : Nat) :
    (setSlot.setAt version ds i).map Dependency.unversioned = ds.map Dependency.unversioned := by
  apply map_modify_of_eq
  exact fun _ => rfl

theorem unversioned_setPluginAt (ps : List Plugin) (version : String) (i : Nat) :
    (setSlot.setPluginAt version ps i).map Plugin.unversioned = ps.map Plugin.unversioned := by
  apply map_modify_of_eq
  exact fun _ => rfl

theorem unversioned_modifyPlugins {edit : List Plugin → List Plugin}
    (h : ∀ ps, (edit ps).map Plugin.unversioned = ps.map Plugin.unversioned) (b : Body)
    (managed : Bool) : (b.modifyPlugins managed edit).unversioned = b.unversioned := by
  cases managed <;> simp [modifyPlugins, unversioned, h]

theorem unversioned_setSlot (b : Body) (version : String) (c : Collection) (i : Nat) :
    (b.setSlot version c i).unversioned = b.unversioned := by
  cases c with
  | dependencies | managedDependencies => simp only [setSlot, unversioned, unversioned_setAt]
  | plugins | managedPlugins =>
    exact unversioned_modifyPlugins (fun ps => unversioned_setPluginAt ps version i) b _
  | pluginDependencies plugin managed =>
    refine unversioned_modifyPlugins (fun ps => map_modify_of_eq (fun p => ?_) ps plugin) b managed
    simp only [Plugin.unversioned, unversioned_setAt]

theorem outline_unversioned (b : Body) : b.unversioned.outline = b.outline := by
  simp [unversioned, outline, Plugin.unversioned, Dependency.unversioned, Function.comp_def]

end Body

namespace Module

/-- A module without the versions of the entries of its bodies. -/
def unversioned (m : Module) : Module :=
  { m with
    body := m.body.unversioned
    profiles := m.profiles.map fun p => { p with body := p.body.unversioned } }

theorem unversioned_setSlot (m : Module) (a : Address) (version : String) :
    (m.setSlot a version).unversioned = m.unversioned := by
  rw [setSlot]
  cases a.scope with
  | main => simp only [modifyBody, unversioned, Body.unversioned_setSlot]
  | profile i =>
    refine congrArg (Module.mk _ _ _ _ _ _ _) (map_modify_of_eq (fun p => ?_) m.profiles i)
    simp only [Body.unversioned_setSlot]

/-- A module without the versions that it declares and without its properties. -/
def outline (m : Module) : Module :=
  { m with
    parent := m.parent.map fun p => { p with version := "" }
    body := m.body.outline
    profiles := m.profiles.map outlineProfile }
where
  outlineProfile (p : Profile) : Profile :=
    { p with body := p.body.outline }

theorem outline_unversioned (m : Module) : m.unversioned.outline = m.outline := by
  simp [unversioned, outline, outline.outlineProfile, Body.outline_unversioned, Function.comp_def]

theorem outline_setSlot (m : Module) (a : Address) (version : String) :
    (m.setSlot a version).outline = m.outline := by
  rw [← outline_unversioned, unversioned_setSlot, outline_unversioned]

theorem outline_withoutProperties (m : Module) : m.withoutProperties.outline = m.outline := by
  simp only [withoutProperties, outline, List.map_map]
  rfl

theorem outline_withParentVersion (m : Module) (version : String) :
    (m.withParentVersion version).outline = m.outline := by
  simp only [withParentVersion, outline, Option.map_map]
  rfl

theorem outline_manage (m : Module) (added : List Dependency) :
    (m.manage added).outline = m.outline.manage (added.map Dependency.unversioned) := by
  simp [manage, modifyBody, outline, Body.outline]

end Module

end BuildAlign
