import BuildAlign.Proofs.Module.Substitution

/-!
Addresses and what is found there. The listing of a module has no address twice, and the text that
is read at the address of a listed declaration is its version.
-/

namespace BuildAlign.Module

theorem nodup_address_listPlugins (scope : Scope) (c : Collection) (ps : List Plugin) :
    ((listPlugins scope c ps).map Declaration.address).Nodup := by
  have haddresses : (listPlugins scope c ps).map Declaration.address =
      (List.range ps.length).map fun i => ⟨scope, c, i⟩ := by
    refine List.ext_getElem (by simp [listPlugins]) fun i _ _ => ?_
    simp [listPlugins, Declaration.ofPlugin]
  rw [haddresses]
  refine List.Nodup.map (fun i j hij => ?_) List.nodup_range
  injection hij

theorem nodup_address_bodyPlugins (e : Scope × Body) :
    ((bodyPlugins e).map Declaration.address).Nodup := by
  rw [bodyPlugins, List.map_append]
  refine (nodup_address_listPlugins ..).append (nodup_address_listPlugins ..) ?_
  intro a ha ha'
  obtain ⟨d, hd, rfl⟩ := List.mem_map.mp ha
  obtain ⟨d', hd', heq⟩ := List.mem_map.mp ha'
  have hcollection := (address_of_mem_listPlugins hd').2
  rw [heq, (address_of_mem_listPlugins hd).2] at hcollection
  cases hcollection

/-- The dependencies of different plugins are in different collections. -/
theorem nodup_address_listPluginDependencies (scope : Scope) (managed : Bool) (ps : List Plugin) :
    ((listPluginDependencies scope managed ps).map Declaration.address).Nodup := by
  rw [listPluginDependencies, List.map_flatten, List.nodup_flatten]
  constructor
  · intro addresses haddresses
    obtain ⟨ds, hds, rfl⟩ := List.mem_map.mp haddresses
    obtain ⟨plugin, _, rfl⟩ := List.mem_mapIdx.mp hds
    exact nodup_address_listDependencies ..
  · refine List.pairwise_map.mpr (List.pairwise_iff_getElem.mpr ?_)
    intro i j hi hj hij a ha ha'
    rw [List.getElem_mapIdx] at ha ha'
    obtain ⟨d, hd, rfl⟩ := List.mem_map.mp ha
    obtain ⟨d', hd', heq⟩ := List.mem_map.mp ha'
    have hcollection := (address_of_mem_listDependencies hd').2
    rw [heq, (address_of_mem_listDependencies hd).2] at hcollection
    injection hcollection with hplugin
    exact absurd hplugin (Nat.ne_of_lt hij)

theorem nodup_address_bodyPluginDependencies (e : Scope × Body) :
    ((bodyPluginDependencies e).map Declaration.address).Nodup := by
  rw [bodyPluginDependencies, List.map_append]
  refine (nodup_address_listPluginDependencies ..).append
    (nodup_address_listPluginDependencies ..) ?_
  intro a ha ha'
  obtain ⟨d, hd, rfl⟩ := List.mem_map.mp ha
  obtain ⟨d', hd', heq⟩ := List.mem_map.mp ha'
  obtain ⟨plugin, _, hd⟩ := mem_listPluginDependencies.mp hd
  obtain ⟨plugin', _, hd'⟩ := mem_listPluginDependencies.mp hd'
  have hcollection := (address_of_mem_listDependencies hd').2
  rw [heq, (address_of_mem_listDependencies hd).2] at hcollection
  injection hcollection with _ hmanaged
  cases hmanaged

/-- The part of the listing that a collection is in: dependencies, plugins, dependencies of plugins.
-/
def listingPart : Collection → Nat
  | .dependencies | .managedDependencies => 0
  | .plugins | .managedPlugins => 1
  | .pluginDependencies .. => 2

theorem listingPart_bodyDependencies (e : Scope × Body) :
    ∀ d ∈ bodyDependencies e, listingPart d.address.collection = 0 := by
  intro d hd
  rcases List.mem_append.mp hd with hd | hd <;>
    rw [(address_of_mem_listDependencies hd).2] <;> rfl

theorem listingPart_bodyPlugins (e : Scope × Body) :
    ∀ d ∈ bodyPlugins e, listingPart d.address.collection = 1 := by
  intro d hd
  rcases List.mem_append.mp hd with hd | hd <;> rw [(address_of_mem_listPlugins hd).2] <;> rfl

theorem listingPart_bodyPluginDependencies (e : Scope × Body) :
    ∀ d ∈ bodyPluginDependencies e, listingPart d.address.collection = 2 := by
  intro d hd
  rcases List.mem_append.mp hd with hd | hd <;>
  · obtain ⟨plugin, _, hd⟩ := mem_listPluginDependencies.mp hd
    rw [(address_of_mem_listDependencies hd).2]
    rfl

/-- Collections of different kinds have no address in common. -/
theorem disjoint_address {list list' : Scope × Body → List Declaration} {part part' : Nat}
    (hne : part ≠ part') (hlist : ∀ e, ∀ d ∈ list e, listingPart d.address.collection = part)
    (hlist' : ∀ e, ∀ d ∈ list' e, listingPart d.address.collection = part') (m : Module) :
    ((m.bodies.flatMap list).map Declaration.address).Disjoint
      ((m.bodies.flatMap list').map Declaration.address) := by
  intro a ha ha'
  obtain ⟨d, hd, rfl⟩ := List.mem_map.mp ha
  obtain ⟨d', hd', heq⟩ := List.mem_map.mp ha'
  obtain ⟨e, _, hd⟩ := List.mem_flatMap.mp hd
  obtain ⟨e', _, hd'⟩ := List.mem_flatMap.mp hd'
  exact hne ((hlist e d hd).symm.trans (heq ▸ hlist' e' d' hd'))

/-- No two declarations of the listing have one address. -/
theorem nodup_address_declarations (m : Module) :
    (m.declarations.map Declaration.address).Nodup := by
  rw [declarations_eq, List.map_append, List.map_append]
  have hdependencies := listing_bodyDependencies.nodup_address_flatMap
    nodup_address_bodyDependencies m
  have hplugins := listing_bodyPlugins.nodup_address_flatMap nodup_address_bodyPlugins m
  have hinner := listing_bodyPluginDependencies.nodup_address_flatMap
    nodup_address_bodyPluginDependencies m
  refine (hdependencies.append hplugins ?_).append hinner ?_
  · exact disjoint_address (by decide) listingPart_bodyDependencies listingPart_bodyPlugins m
  · rw [List.disjoint_append_left]
    exact ⟨disjoint_address (by decide) listingPart_bodyDependencies
        listingPart_bodyPluginDependencies m,
      disjoint_address (by decide) listingPart_bodyPlugins listingPart_bodyPluginDependencies m⟩

theorem slot?_eq_bodyDeclaration? (b : Body) (a : Address) :
    b.slot? a.collection a.index = (bodyDeclaration? b a).map Declaration.version := by
  obtain ⟨scope, c, i⟩ := a
  cases c with
  | dependencies | managedDependencies | plugins | managedPlugins =>
    simp only [Body.slot?, bodyDeclaration?, Option.map_map]
    rfl
  | pluginDependencies plugin managed =>
    simp only [Body.slot?, bodyDeclaration?, Option.map_bind, Function.comp_def, Option.map_map]
    rfl

/-- The version of a declaration is found at its address. -/
theorem slot?_of_mem_declarations {m : Module} {d : Declaration} (hd : d ∈ m.declarations) :
    m.slot? d.address = some d.version := by
  have hread := read_of_mem_declarations hd
  rw [slot?]
  cases hbody : m.body? d.address.scope with
  | none =>
    rw [hbody] at hread
    cases hread
  | some b =>
    rw [hbody, Option.bind_some] at hread
    rw [Option.bind_some, slot?_eq_bodyDeclaration?, hread, Option.map_some]

end BuildAlign.Module
