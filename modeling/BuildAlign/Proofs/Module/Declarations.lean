import BuildAlign.Proofs.Reactor.Declaration

/-!
What writing a version text does to the declarations of a module. The declaration at the address has
the new text, and nothing else changes: none is added, removed or moved, and no property is touched.
A declaration is read back from its address, so no two have one address.
-/

namespace BuildAlign

namespace Declaration

/-- A declaration after a version text is written at an address. -/
def rewrite (a : Address) (version : String) (d : Declaration) : Declaration :=
  if d.address = a then { d with version := some version } else d

variable {a : Address} {version : String}

theorem map_rewrite_of_ne {ds : List Declaration} (h : ∀ d ∈ ds, d.address ≠ a) :
    ds.map (rewrite a version) = ds := by
  calc ds.map (rewrite a version) = ds.map id :=
        List.map_congr_left fun d hd => if_neg (h d hd)
    _ = ds := List.map_id ds

end Declaration

namespace Module

open Declaration

variable {version : String}

/-! ## One collection -/

theorem listDependencies_setAt (scope : Scope) (c : Collection) (ds : List Dependency) (i : Nat) :
    listDependencies scope c (Body.setSlot.setAt version ds i) =
      (listDependencies scope c ds).map (rewrite ⟨scope, c, i⟩ version) := by
  refine List.ext_getElem (by simp [listDependencies, Body.setSlot.setAt]) fun j _ _ => ?_
  by_cases hij : i = j
  · simp [listDependencies, Body.setSlot.setAt, ofDependency, rewrite, hij]
  · simp [listDependencies, Body.setSlot.setAt, ofDependency, rewrite, hij, Ne.symm hij]

theorem listPlugins_setPluginAt (scope : Scope) (c : Collection) (ps : List Plugin) (i : Nat) :
    listPlugins scope c (Body.setSlot.setPluginAt version ps i) =
      (listPlugins scope c ps).map (rewrite ⟨scope, c, i⟩ version) := by
  refine List.ext_getElem (by simp [listPlugins, Body.setSlot.setPluginAt]) fun j _ _ => ?_
  by_cases hij : i = j
  · simp [listPlugins, Body.setSlot.setPluginAt, ofPlugin, rewrite, hij]
  · simp [listPlugins, Body.setSlot.setPluginAt, ofPlugin, rewrite, hij, Ne.symm hij]

theorem address_of_mem_listDependencies {scope : Scope} {c : Collection} {ds : List Dependency}
    {d : Declaration} (hd : d ∈ listDependencies scope c ds) :
    d.address.scope = scope ∧ d.address.collection = c := by
  obtain ⟨i, hi, rfl⟩ := List.mem_mapIdx.mp hd
  exact ⟨rfl, rfl⟩

theorem address_of_mem_listPlugins {scope : Scope} {c : Collection} {ps : List Plugin}
    {d : Declaration} (hd : d ∈ listPlugins scope c ps) :
    d.address.scope = scope ∧ d.address.collection = c := by
  obtain ⟨i, hi, rfl⟩ := List.mem_mapIdx.mp hd
  exact ⟨rfl, rfl⟩

theorem mem_listPluginDependencies {scope : Scope} {managed : Bool} {ps : List Plugin}
    {d : Declaration} :
    d ∈ listPluginDependencies scope managed ps ↔ ∃ plugin, ∃ h : plugin < ps.length,
      d ∈ listDependencies scope (.pluginDependencies plugin managed) ps[plugin].dependencies := by
  simp only [listPluginDependencies, List.mem_flatten, List.mem_mapIdx]
  constructor
  · rintro ⟨_, ⟨plugin, h, rfl⟩, hd⟩
    exact ⟨plugin, h, hd⟩
  · rintro ⟨plugin, h, hd⟩
    exact ⟨_, ⟨plugin, h, rfl⟩, hd⟩

theorem listDependencies_of_ne {scope : Scope} {c : Collection} {a : Address}
    (h : a.scope ≠ scope ∨ a.collection ≠ c) (ds : List Dependency) :
    (listDependencies scope c ds).map (rewrite a version) = listDependencies scope c ds := by
  refine map_rewrite_of_ne fun d hd ha => ?_
  obtain ⟨hscope, hcollection⟩ := address_of_mem_listDependencies hd
  rcases h with h | h
  · exact h (ha ▸ hscope)
  · exact h (ha ▸ hcollection)

theorem listPlugins_of_ne {scope : Scope} {c : Collection} {a : Address}
    (h : a.scope ≠ scope ∨ a.collection ≠ c) (ps : List Plugin) :
    (listPlugins scope c ps).map (rewrite a version) = listPlugins scope c ps := by
  refine map_rewrite_of_ne fun d hd ha => ?_
  obtain ⟨hscope, hcollection⟩ := address_of_mem_listPlugins hd
  rcases h with h | h
  · exact h (ha ▸ hscope)
  · exact h (ha ▸ hcollection)

/-- Only the dependencies of a plugin count, not its version. -/
theorem listPluginDependencies_setPluginAt (scope : Scope) (managed : Bool) (ps : List Plugin)
    (i : Nat) :
    listPluginDependencies scope managed (Body.setSlot.setPluginAt version ps i) =
      listPluginDependencies scope managed ps := by
  rw [listPluginDependencies, listPluginDependencies]
  refine congrArg _ (List.ext_getElem (by simp [Body.setSlot.setPluginAt]) fun j _ _ => ?_)
  simp only [Body.setSlot.setPluginAt, List.getElem_mapIdx, List.getElem_modify]
  split <;> rfl

/-- Only the version of a plugin counts, not its dependencies. -/
theorem listPlugins_modify (scope : Scope) (c : Collection) (ps : List Plugin) (plugin : Nat)
    (edit : List Dependency → List Dependency) :
    listPlugins scope c (ps.modify plugin fun p => { p with dependencies := edit p.dependencies }) =
      listPlugins scope c ps := by
  refine List.ext_getElem (by simp [listPlugins]) fun j _ _ => ?_
  simp only [listPlugins, List.getElem_mapIdx, List.getElem_modify]
  split <;> rfl

theorem listPluginDependencies_setAt (scope : Scope) (managed : Bool) (ps : List Plugin)
    (plugin i : Nat) :
    listPluginDependencies scope managed (ps.modify plugin fun p =>
        { p with dependencies := Body.setSlot.setAt version p.dependencies i }) =
      (listPluginDependencies scope managed ps).map
        (rewrite ⟨scope, .pluginDependencies plugin managed, i⟩ version) := by
  rw [listPluginDependencies, listPluginDependencies, List.map_flatten]
  refine congrArg _ (List.ext_getElem (by simp) fun j _ _ => ?_)
  simp only [List.getElem_map, List.getElem_mapIdx, List.getElem_modify]
  by_cases hij : plugin = j
  · subst hij
    rw [if_pos rfl, listDependencies_setAt]
  · rw [if_neg hij, listDependencies_of_ne (.inr fun h => hij (by injection h))]

theorem listPluginDependencies_of_ne {scope : Scope} {managed : Bool} {a : Address}
    (h : a.scope ≠ scope ∨ ∀ plugin, a.collection ≠ .pluginDependencies plugin managed)
    (ps : List Plugin) :
    (listPluginDependencies scope managed ps).map (rewrite a version) =
      listPluginDependencies scope managed ps := by
  refine map_rewrite_of_ne fun d hd ha => ?_
  obtain ⟨plugin, _, hd⟩ := mem_listPluginDependencies.mp hd
  obtain ⟨hscope, hcollection⟩ := address_of_mem_listDependencies hd
  rcases h with h | h
  · exact h (ha ▸ hscope)
  · exact h plugin (ha ▸ hcollection)

/-! ## All collections of a body -/

section

variable (version) (scope : Scope) (b : Body) (c : Collection) (i : Nat)

theorem dependencies_setSlot :
    listDependencies scope .dependencies (b.setSlot version c i).dependencies =
      (listDependencies scope .dependencies b.dependencies).map
        (rewrite ⟨scope, c, i⟩ version) := by
  cases c with
  | dependencies => exact listDependencies_setAt ..
  | managedDependencies | plugins | managedPlugins =>
    exact (listDependencies_of_ne (.inr (by simp)) _).symm
  | pluginDependencies plugin managed =>
    cases managed <;> exact (listDependencies_of_ne (.inr (by simp)) _).symm

theorem managedDependencies_setSlot :
    listDependencies scope .managedDependencies (b.setSlot version c i).managedDependencies =
      (listDependencies scope .managedDependencies b.managedDependencies).map
        (rewrite ⟨scope, c, i⟩ version) := by
  cases c with
  | managedDependencies => exact listDependencies_setAt ..
  | dependencies | plugins | managedPlugins =>
    exact (listDependencies_of_ne (.inr (by simp)) _).symm
  | pluginDependencies plugin managed =>
    cases managed <;> exact (listDependencies_of_ne (.inr (by simp)) _).symm

def pluginCollection (managed : Bool) : Collection :=
  if managed then .managedPlugins else .plugins

/-- Writing at an address changes the listing there and nowhere else, here for the plugins. -/
theorem pluginList_setSlot (managed : Bool) :
    listPlugins scope (pluginCollection managed) ((b.setSlot version c i).pluginList managed) =
      (listPlugins scope (pluginCollection managed) (b.pluginList managed)).map
        (rewrite ⟨scope, c, i⟩ version) := by
  cases c with
  | dependencies | managedDependencies =>
    cases managed <;> exact (listPlugins_of_ne (.inr (by simp [pluginCollection])) _).symm
  | plugins =>
    cases managed
    · exact listPlugins_setPluginAt ..
    · exact (listPlugins_of_ne (.inr (by simp [pluginCollection])) _).symm
  | managedPlugins =>
    cases managed
    · exact (listPlugins_of_ne (.inr (by simp [pluginCollection])) _).symm
    · exact listPlugins_setPluginAt ..
  | pluginDependencies plugin managed' =>
    rw [listPlugins_of_ne (.inr (by cases managed <;> simp [pluginCollection]))]
    cases managed' <;> cases managed
    · exact listPlugins_modify ..
    · rfl
    · rfl
    · exact listPlugins_modify ..

theorem pluginDependencies_setSlot (managed : Bool) :
    listPluginDependencies scope managed ((b.setSlot version c i).pluginList managed) =
      (listPluginDependencies scope managed (b.pluginList managed)).map
        (rewrite ⟨scope, c, i⟩ version) := by
  cases c with
  | dependencies | managedDependencies =>
    cases managed <;> exact (listPluginDependencies_of_ne (.inr (by simp)) _).symm
  | plugins | managedPlugins =>
    rw [listPluginDependencies_of_ne (.inr (by simp))]
    cases managed <;> first | exact listPluginDependencies_setPluginAt .. | rfl
  | pluginDependencies plugin managed' =>
    cases managed' <;> cases managed
    · exact listPluginDependencies_setAt ..
    · exact (listPluginDependencies_of_ne (.inr (by simp)) _).symm
    · exact (listPluginDependencies_of_ne (.inr (by simp)) _).symm
    · exact listPluginDependencies_setAt ..

end

def bodyDependencies (e : Scope × Body) : List Declaration :=
  listDependencies e.1 .managedDependencies e.2.managedDependencies
    ++ listDependencies e.1 .dependencies e.2.dependencies

def bodyPlugins (e : Scope × Body) : List Declaration :=
  listPlugins e.1 .plugins e.2.plugins ++ listPlugins e.1 .managedPlugins e.2.managedPlugins

def bodyPluginDependencies (e : Scope × Body) : List Declaration :=
  listPluginDependencies e.1 false e.2.plugins ++ listPluginDependencies e.1 true e.2.managedPlugins

/-- The declaration of the entry at an address of one body. -/
def bodyDeclaration? (b : Body) (a : Address) : Option Declaration :=
  match a.collection with
  | .dependencies => (b.dependencies[a.index]?).map (ofDependency a)
  | .managedDependencies => (b.managedDependencies[a.index]?).map (ofDependency a)
  | .plugins => (b.plugins[a.index]?).map (ofPlugin a)
  | .managedPlugins => (b.managedPlugins[a.index]?).map (ofPlugin a)
  | .pluginDependencies plugin managed =>
    ((b.pluginList managed)[plugin]?).bind fun p =>
      (p.dependencies[a.index]?).map (ofDependency a)

/-- A listing of some declarations of a body: written version texts change it only at their
addresses, and every declaration is read back from its address. -/
structure Listing (list : Scope × Body → List Declaration) : Prop where
  rewritten : ∀ (version : String) (scope : Scope) (b : Body) (c : Collection) (i : Nat),
    list (scope, b.setSlot version c i) = (list (scope, b)).map (rewrite ⟨scope, c, i⟩ version)
  scope : ∀ e, ∀ d ∈ list e, d.address.scope = e.1
  read : ∀ e, ∀ d ∈ list e, bodyDeclaration? e.2 d.address = some d

theorem listing_bodyDependencies : Listing bodyDependencies where
  rewritten version scope b c i := by
    rw [bodyDependencies, bodyDependencies, List.map_append, dependencies_setSlot,
      managedDependencies_setSlot]
  scope e d hd := by
    rcases List.mem_append.mp hd with hd | hd <;> exact (address_of_mem_listDependencies hd).1
  read e d hd := by
    rcases List.mem_append.mp hd with hd | hd <;>
    · obtain ⟨i, hi, rfl⟩ := List.mem_mapIdx.mp hd
      simp [ofDependency, bodyDeclaration?, hi]

theorem listing_bodyPlugins : Listing bodyPlugins where
  rewritten version scope b c i := by
    have hplugins := pluginList_setSlot version scope b c i false
    have hmanaged := pluginList_setSlot version scope b c i true
    simp only [pluginCollection, Body.pluginList, Bool.false_eq_true, if_false, if_true]
      at hplugins hmanaged
    rw [bodyPlugins, bodyPlugins, List.map_append, hplugins, hmanaged]
  scope e d hd := by
    rcases List.mem_append.mp hd with hd | hd <;> exact (address_of_mem_listPlugins hd).1
  read e d hd := by
    rcases List.mem_append.mp hd with hd | hd <;>
    · obtain ⟨i, hi, rfl⟩ := List.mem_mapIdx.mp hd
      simp [ofPlugin, bodyDeclaration?, hi]

theorem listing_bodyPluginDependencies : Listing bodyPluginDependencies where
  rewritten version scope b c i := by
    have hplugins := pluginDependencies_setSlot version scope b c i false
    have hmanaged := pluginDependencies_setSlot version scope b c i true
    simp only [Body.pluginList, Bool.false_eq_true, if_false, if_true] at hplugins hmanaged
    rw [bodyPluginDependencies, bodyPluginDependencies, List.map_append, hplugins, hmanaged]
  scope e d hd := by
    rcases List.mem_append.mp hd with hd | hd <;>
    · obtain ⟨plugin, _, hd⟩ := mem_listPluginDependencies.mp hd
      exact (address_of_mem_listDependencies hd).1
  read e d hd := by
    rcases List.mem_append.mp hd with hd | hd <;>
    · obtain ⟨plugin, hplugin, hd⟩ := mem_listPluginDependencies.mp hd
      obtain ⟨i, hi, rfl⟩ := List.mem_mapIdx.mp hd
      simp [ofDependency, bodyDeclaration?, Body.pluginList, hplugin, hi]

/-- What holds of the listing of one body holds of a module: an address belongs to one scope only.
-/
theorem Listing.flatMap_setSlot {list : Scope × Body → List Declaration} (h : Listing list)
    (m : Module) (a : Address) (version : String) :
    (m.setSlot a version).bodies.flatMap list =
      (m.bodies.flatMap list).map (rewrite a version) := by
  rw [setSlot, bodies_modifyBody, List.flatMap_map, List.map_flatMap]
  refine congrArg List.flatten (List.map_congr_left fun e _ => ?_)
  rw [modifyIn]
  split
  · rename_i hscope
    obtain ⟨scope, c, i⟩ := a
    subst hscope
    exact h.rewritten version e.1 e.2 c i
  · rename_i hscope
    refine (map_rewrite_of_ne fun d hd ha => hscope ?_).symm
    rw [← h.scope e d hd, ha]

theorem Listing.read_of_mem {list : Scope × Body → List Declaration} (h : Listing list)
    {m : Module} {d : Declaration} (hd : d ∈ m.bodies.flatMap list) :
    (m.body? d.address.scope).bind (bodyDeclaration? · d.address) = some d := by
  obtain ⟨e, he, hd⟩ := List.mem_flatMap.mp hd
  rw [h.scope e d hd, body?_of_mem_bodies he]
  exact h.read e d hd

/-! ## All declarations -/

theorem declarations_eq (m : Module) :
    m.declarations = m.bodies.flatMap bodyDependencies ++ m.bodies.flatMap bodyPlugins
      ++ m.bodies.flatMap bodyPluginDependencies := rfl

/-- Writing a version text rewrites the declaration at the address. -/
theorem declarations_setSlot (m : Module) (a : Address) (version : String) :
    (m.setSlot a version).declarations = m.declarations.map (rewrite a version) := by
  simp only [declarations_eq, List.map_append]
  rw [listing_bodyDependencies.flatMap_setSlot, listing_bodyPlugins.flatMap_setSlot,
    listing_bodyPluginDependencies.flatMap_setSlot]

theorem read_of_mem_declarations {m : Module} {d : Declaration} (hd : d ∈ m.declarations) :
    (m.body? d.address.scope).bind (bodyDeclaration? · d.address) = some d := by
  rcases List.mem_append.mp hd with hd | hd
  · rcases List.mem_append.mp hd with hd | hd
    · exact listing_bodyDependencies.read_of_mem hd
    · exact listing_bodyPlugins.read_of_mem hd
  · exact listing_bodyPluginDependencies.read_of_mem hd

/-- Different declarations have different addresses. -/
theorem eq_of_address_eq {m : Module} {d d' : Declaration} (hd : d ∈ m.declarations)
    (hd' : d' ∈ m.declarations) (ha : d.address = d'.address) : d = d' := by
  have hread := read_of_mem_declarations hd
  rw [ha, read_of_mem_declarations hd'] at hread
  exact (Option.some.inj hread).symm

theorem declarations_setProperty (m : Module) (scope : Scope) (name value : String) :
    (m.setProperty scope name value).declarations = m.declarations := by
  have hlist : ∀ list : Scope × Body → List Declaration,
      (∀ scope b properties, list (scope, { b with properties }) = list (scope, b)) →
        (m.setProperty scope name value).bodies.flatMap list = m.bodies.flatMap list := by
    intro list hproperties
    rw [bodies_setProperty, List.flatMap_map]
    refine congrArg List.flatten (List.map_congr_left fun e _ => ?_)
    rw [setInScope]
    split
    · exact hproperties _ _ _
    · rfl
  simp only [declarations_eq]
  rw [hlist bodyDependencies fun _ _ _ => rfl, hlist bodyPlugins fun _ _ _ => rfl,
    hlist bodyPluginDependencies fun _ _ _ => rfl]

end Module

/-! ## Managed dependencies put in front -/

/-- The address of an entry after a number of managed dependencies are put in front of those of the
main body. -/
def Address.behind (count : Nat) (a : Address) : Address :=
  if a.scope = .main ∧ a.collection = .managedDependencies then { a with index := a.index + count }
  else a

/-- A declaration after managed dependencies are put in front of those of the main body. -/
def Declaration.behind (count : Nat) (d : Declaration) : Declaration :=
  { d with address := d.address.behind count }

namespace Module

/-- A module with managed dependencies put in front of those of its main body. -/
def manage (added : List Dependency) (m : Module) : Module :=
  m.modifyBody (fun b => { b with managedDependencies := added ++ b.managedDependencies }) .main

theorem listDependencies_append (added ds : List Dependency) :
    listDependencies .main .managedDependencies (added ++ ds) =
      listDependencies .main .managedDependencies added ++
        (listDependencies .main .managedDependencies ds).map (Declaration.behind added.length) := by
  rw [listDependencies, listDependencies, listDependencies, List.mapIdx_append]
  refine congrArg _ (List.ext_getElem (by simp) fun j _ _ => ?_)
  simp [Declaration.ofDependency, Declaration.behind, Address.behind]

theorem map_behind_of_ne {ds : List Declaration} (count : Nat)
    (h : ∀ d ∈ ds, ¬ (d.address.scope = .main ∧ d.address.collection = .managedDependencies)) :
    ds.map (Declaration.behind count) = ds := by
  calc ds.map (Declaration.behind count) = ds.map id :=
        List.map_congr_left fun d hd => by
          rw [Declaration.behind, Address.behind, if_neg (h d hd)]
          rfl
    _ = ds := List.map_id ds

def profileBodies (m : Module) : List (Scope × Body) :=
  m.profiles.mapIdx fun i p => (.profile i, p.body)

def otherDeclarations (m : Module) : List Declaration :=
  listDependencies .main .dependencies m.body.dependencies
    ++ m.profileBodies.flatMap bodyDependencies ++ m.bodies.flatMap bodyPlugins
    ++ m.bodies.flatMap bodyPluginDependencies

theorem declarations_eq_managed (m : Module) :
    m.declarations =
      listDependencies .main .managedDependencies m.body.managedDependencies
        ++ m.otherDeclarations := by
  rw [declarations_eq, otherDeclarations, bodies, List.flatMap_cons, bodyDependencies]
  simp only [List.append_assoc]
  rfl

theorem not_managed_of_mem_otherDeclarations {m : Module} {d : Declaration}
    (hd : d ∈ m.otherDeclarations) :
    ¬ (d.address.scope = .main ∧ d.address.collection = .managedDependencies) := by
  rintro ⟨hscope, hcollection⟩
  simp only [otherDeclarations, List.mem_append] at hd
  rcases hd with ((hd | hd) | hd) | hd
  · exact absurd ((address_of_mem_listDependencies hd).2.symm.trans hcollection) nofun
  · obtain ⟨e, he, hd⟩ := List.mem_flatMap.mp hd
    obtain ⟨i, _, rfl⟩ := List.mem_mapIdx.mp he
    exact absurd ((listing_bodyDependencies.scope _ d hd).symm.trans hscope) nofun
  · obtain ⟨e, _, hd⟩ := List.mem_flatMap.mp hd
    rcases List.mem_append.mp hd with hd | hd <;>
      exact absurd ((address_of_mem_listPlugins hd).2.symm.trans hcollection) nofun
  · obtain ⟨e, _, hd⟩ := List.mem_flatMap.mp hd
    rcases List.mem_append.mp hd with hd | hd <;>
    · obtain ⟨plugin, _, hd⟩ := mem_listPluginDependencies.mp hd
      exact absurd ((address_of_mem_listDependencies hd).2.symm.trans hcollection) nofun

/-- Dependencies put in front of the managed ones are listed first, and all other declarations stay
as they are, behind them. -/
theorem declarations_manage (added : List Dependency) (m : Module) :
    (m.manage added).declarations =
      listDependencies .main .managedDependencies added ++
        m.declarations.map (Declaration.behind added.length) := by
  have hother : (m.manage added).otherDeclarations = m.otherDeclarations := rfl
  have hmanaged : (m.manage added).body.managedDependencies = added ++ m.body.managedDependencies :=
    rfl
  rw [declarations_eq_managed, hother, hmanaged, listDependencies_append,
    m.declarations_eq_managed, List.map_append, List.append_assoc,
    map_behind_of_ne _ fun d hd => not_managed_of_mem_otherDeclarations hd]

end Module

end BuildAlign
