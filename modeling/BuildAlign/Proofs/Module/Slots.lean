import BuildAlign.Proofs.Module.AddressText
import BuildAlign.Proofs.Module.Addresses
import BuildAlign.Proofs.Module.Outline

/-!
The slots of a module for version texts. Every entry of every body is listed once, with an address
that no other entry has; the text is read and written at the addresses of the listing and nowhere
else, and a write is seen at its address only.
-/

namespace BuildAlign

/-! ## Edits of one entry -/

section

variable {α : Type} {xs : List α} {i : Nat}

theorem modify_eq_set {x : α} (h : xs[i]? = some x) (edit : α → α) :
    xs.modify i edit = xs.set i (edit x) := by
  rw [List.modify_eq_set_getElem?, h]
  rfl

theorem modify_of_none (h : xs[i]? = none) (edit : α → α) : xs.modify i edit = xs :=
  List.modify_eq_self (List.getElem?_eq_none_iff.mp h)

theorem modify_of_eq {x : α} (h : xs[i]? = some x) {edit : α → α} (hedit : edit x = x) :
    xs.modify i edit = xs := by
  obtain ⟨hi, rfl⟩ := List.getElem?_eq_some_iff.mp h
  rw [modify_eq_set h, hedit, List.set_getElem_self]

end

namespace Module

/-- The entries of the collections of all bodies, each with what it declares. -/
inductive Declares (m : Module) : Declaration → Prop
  | dependency {scope : Scope} {b : Body} {i : Nat} {d : Dependency}
      (body : m.body? scope = some b) (entry : b.dependencies[i]? = some d) :
      Declares m ⟨⟨scope, .dependencies, i⟩, d.group, d.name, d.version, d.kind, d.classifier⟩
  | managedDependency {scope : Scope} {b : Body} {i : Nat} {d : Dependency}
      (body : m.body? scope = some b) (entry : b.managedDependencies[i]? = some d) :
      Declares m
        ⟨⟨scope, .managedDependencies, i⟩, d.group, d.name, d.version, d.kind, d.classifier⟩
  | plugin {scope : Scope} {b : Body} {i : Nat} {p : Plugin}
      (body : m.body? scope = some b) (entry : b.plugins[i]? = some p) :
      Declares m ⟨⟨scope, .plugins, i⟩, p.group, p.name, p.version, "maven-plugin", none⟩
  | managedPlugin {scope : Scope} {b : Body} {i : Nat} {p : Plugin}
      (body : m.body? scope = some b) (entry : b.managedPlugins[i]? = some p) :
      Declares m ⟨⟨scope, .managedPlugins, i⟩, p.group, p.name, p.version, "maven-plugin", none⟩
  | pluginDependency {scope : Scope} {b : Body} {plugin i : Nat} {p : Plugin} {d : Dependency}
      (body : m.body? scope = some b) (outer : b.plugins[plugin]? = some p)
      (entry : p.dependencies[i]? = some d) :
      Declares m ⟨⟨scope, .pluginDependencies plugin false, i⟩, d.group, d.name, d.version, d.kind,
        d.classifier⟩
  | managedPluginDependency {scope : Scope} {b : Body} {plugin i : Nat} {p : Plugin}
      {d : Dependency} (body : m.body? scope = some b)
      (outer : b.managedPlugins[plugin]? = some p) (entry : p.dependencies[i]? = some d) :
      Declares m ⟨⟨scope, .pluginDependencies plugin true, i⟩, d.group, d.name, d.version, d.kind,
        d.classifier⟩

/-! ## The listing is complete -/

section

variable {m : Module} {scope : Scope} {b : Body}

theorem mem_bodies_of_body? (h : m.body? scope = some b) : (scope, b) ∈ m.bodies := by
  cases scope with
  | main =>
    cases h
    exact List.mem_cons_self ..
  | profile i =>
    obtain ⟨p, hp, rfl⟩ := Option.map_eq_some_iff.mp h
    obtain ⟨hi, rfl⟩ := List.getElem?_eq_some_iff.mp hp
    exact List.mem_cons_of_mem _ (List.mem_mapIdx.mpr ⟨i, hi, rfl⟩)

theorem mem_listDependencies (c : Collection) {ds : List Dependency} {i : Nat} {d : Dependency}
    (h : ds[i]? = some d) : .ofDependency ⟨scope, c, i⟩ d ∈ listDependencies scope c ds := by
  obtain ⟨hi, rfl⟩ := List.getElem?_eq_some_iff.mp h
  exact List.mem_mapIdx.mpr ⟨i, hi, rfl⟩

theorem mem_listPlugins (c : Collection) {ps : List Plugin} {i : Nat} {p : Plugin}
    (h : ps[i]? = some p) : .ofPlugin ⟨scope, c, i⟩ p ∈ listPlugins scope c ps := by
  obtain ⟨hi, rfl⟩ := List.getElem?_eq_some_iff.mp h
  exact List.mem_mapIdx.mpr ⟨i, hi, rfl⟩

theorem mem_listPluginDependencies_of_getElem? (managed : Bool) {ps : List Plugin} {plugin i : Nat}
    {p : Plugin} {d : Dependency} (hp : ps[plugin]? = some p)
    (hd : p.dependencies[i]? = some d) :
    .ofDependency ⟨scope, .pluginDependencies plugin managed, i⟩ d ∈
      listPluginDependencies scope managed ps := by
  obtain ⟨hplugin, rfl⟩ := List.getElem?_eq_some_iff.mp hp
  exact mem_listPluginDependencies.mpr ⟨plugin, hplugin, mem_listDependencies _ hd⟩

end

/-- The listing is complete: it has an entry for every place that a module has. -/
theorem Declares.mem {m : Module} {d : Declaration} (h : m.Declares d) : d ∈ m.declarations := by
  have hdependencies : ∀ {e}, e ∈ m.bodies → d ∈ bodyDependencies e → d ∈ m.declarations :=
    fun he hd => List.mem_append_left _ (List.mem_append_left _ (List.mem_flatMap.mpr ⟨_, he, hd⟩))
  have hplugins : ∀ {e}, e ∈ m.bodies → d ∈ bodyPlugins e → d ∈ m.declarations :=
    fun he hd => List.mem_append_left _ (List.mem_append_right _ (List.mem_flatMap.mpr ⟨_, he, hd⟩))
  have hinner : ∀ {e}, e ∈ m.bodies → d ∈ bodyPluginDependencies e → d ∈ m.declarations :=
    fun he hd => List.mem_append_right _ (List.mem_flatMap.mpr ⟨_, he, hd⟩)
  cases h with
  | dependency body entry =>
    exact hdependencies (mem_bodies_of_body? body)
      (List.mem_append_right _ (mem_listDependencies _ entry))
  | managedDependency body entry =>
    exact hdependencies (mem_bodies_of_body? body)
      (List.mem_append_left _ (mem_listDependencies _ entry))
  | plugin body entry =>
    exact hplugins (mem_bodies_of_body? body) (List.mem_append_left _ (mem_listPlugins _ entry))
  | managedPlugin body entry =>
    exact hplugins (mem_bodies_of_body? body) (List.mem_append_right _ (mem_listPlugins _ entry))
  | pluginDependency body outer entry =>
    exact hinner (mem_bodies_of_body? body)
      (List.mem_append_left _ (mem_listPluginDependencies_of_getElem? _ outer entry))
  | managedPluginDependency body outer entry =>
    exact hinner (mem_bodies_of_body? body)
      (List.mem_append_right _ (mem_listPluginDependencies_of_getElem? _ outer entry))

/-- What is read at an address is an entry. -/
theorem declares_of_read {m : Module} {a : Address} {d : Declaration}
    (h : (m.body? a.scope).bind (bodyDeclaration? · a) = some d) :
    m.Declares d ∧ d.address = a := by
  obtain ⟨b, hb, hd⟩ := Option.bind_eq_some_iff.mp h
  obtain ⟨scope, c, i⟩ := a
  cases c with
  | dependencies =>
    obtain ⟨entry, hentry, rfl⟩ := Option.map_eq_some_iff.mp hd
    exact ⟨.dependency hb hentry, rfl⟩
  | managedDependencies =>
    obtain ⟨entry, hentry, rfl⟩ := Option.map_eq_some_iff.mp hd
    exact ⟨.managedDependency hb hentry, rfl⟩
  | plugins =>
    obtain ⟨entry, hentry, rfl⟩ := Option.map_eq_some_iff.mp hd
    exact ⟨.plugin hb hentry, rfl⟩
  | managedPlugins =>
    obtain ⟨entry, hentry, rfl⟩ := Option.map_eq_some_iff.mp hd
    exact ⟨.managedPlugin hb hentry, rfl⟩
  | pluginDependencies plugin managed =>
    obtain ⟨p, hp, hd⟩ := Option.bind_eq_some_iff.mp hd
    obtain ⟨entry, hentry, rfl⟩ := Option.map_eq_some_iff.mp hd
    cases managed with
    | false => exact ⟨.pluginDependency hb hp hentry, rfl⟩
    | true => exact ⟨.managedPluginDependency hb hp hentry, rfl⟩

/-- The listing has all entries and nothing else. -/
theorem mem_declarations_iff {m : Module} {d : Declaration} :
    d ∈ m.declarations ↔ m.Declares d :=
  ⟨fun hd => (declares_of_read (read_of_mem_declarations hd)).1, Declares.mem⟩

/-- A text, or that there is none, is read exactly at the addresses of the listing. -/
theorem slot?_eq_some_iff {m : Module} {a : Address} {version : Option String} :
    m.slot? a = some version ↔ ∃ d ∈ m.declarations, d.address = a ∧ d.version = version := by
  constructor
  · intro h
    obtain ⟨b, hb, hslot⟩ := Option.bind_eq_some_iff.mp h
    rw [slot?_eq_bodyDeclaration?] at hslot
    obtain ⟨d, hd, hversion⟩ := Option.map_eq_some_iff.mp hslot
    obtain ⟨hdeclares, haddress⟩ :=
      declares_of_read (m := m) (a := a) (Option.bind_eq_some_iff.mpr ⟨b, hb, hd⟩)
    exact ⟨d, hdeclares.mem, haddress, hversion⟩
  · rintro ⟨d, hd, rfl, rfl⟩
    exact slot?_of_mem_declarations hd

/-! ## Reading what was written -/

theorem address_rewrite (a : Address) (version : String) (d : Declaration) :
    (d.rewrite a version).address = d.address := by
  rw [Declaration.rewrite]
  split <;> rfl

theorem version_rewrite (a : Address) (version : String) (d : Declaration) :
    (d.rewrite a version).version = if d.address = a then some version else d.version := by
  rw [Declaration.rewrite]
  split <;> rfl

/-- A written text is read at its address; at every other one is what was there before. -/
theorem slot?_setSlot (m : Module) (a : Address) (version : String) (a' : Address) :
    (m.setSlot a version).slot? a' =
      (m.slot? a').map fun old => if a' = a then some version else old := by
  ext new
  rw [slot?_eq_some_iff, Option.map_eq_some_iff, declarations_setSlot]
  constructor
  · rintro ⟨_, hmem, haddress, hnew⟩
    obtain ⟨d, hd, rfl⟩ := List.mem_map.mp hmem
    rw [address_rewrite] at haddress
    refine ⟨d.version, slot?_eq_some_iff.mpr ⟨d, hd, haddress, rfl⟩, ?_⟩
    rw [← hnew, version_rewrite, haddress]
  · rintro ⟨old, hold, rfl⟩
    obtain ⟨d, hd, rfl, rfl⟩ := slot?_eq_some_iff.mp hold
    exact ⟨d.rewrite a version, List.mem_map_of_mem hd, address_rewrite .., version_rewrite ..⟩

end Module

/-! ## Writing with an answer -/

/-- Writes the version text of an entry, and answers with the text that was there; nothing if the
collection has no such entry. -/
def Body.exchange? (b : Body) (version : String) : Collection → Nat → Option (Option String × Body)
  | .dependencies, i =>
    (dependencyAt b.dependencies i).map fun (old, ds) => (old, { b with dependencies := ds })
  | .managedDependencies, i =>
    (dependencyAt b.managedDependencies i).map fun (old, ds) =>
      (old, { b with managedDependencies := ds })
  | .plugins, i => (pluginAt b.plugins i).map fun (old, ps) => (old, { b with plugins := ps })
  | .managedPlugins, i =>
    (pluginAt b.managedPlugins i).map fun (old, ps) => (old, { b with managedPlugins := ps })
  | .pluginDependencies plugin false, i =>
    (innerAt b.plugins plugin i).map fun (old, ps) => (old, { b with plugins := ps })
  | .pluginDependencies plugin true, i =>
    (innerAt b.managedPlugins plugin i).map fun (old, ps) => (old, { b with managedPlugins := ps })
where
  dependencyAt (ds : List Dependency) (i : Nat) : Option (Option String × List Dependency) :=
    (ds[i]?).map fun d => (d.version, ds.set i { d with version := some version })
  pluginAt (ps : List Plugin) (i : Nat) : Option (Option String × List Plugin) :=
    (ps[i]?).map fun p => (p.version, ps.set i { p with version := some version })
  innerAt (ps : List Plugin) (plugin i : Nat) : Option (Option String × List Plugin) :=
    (ps[plugin]?).bind fun p =>
      (dependencyAt p.dependencies i).map fun (old, ds) =>
        (old, ps.set plugin { p with dependencies := ds })

namespace Body

variable (version : String)

theorem dependencyAt_eq (ds : List Dependency) (i : Nat) :
    exchange?.dependencyAt version ds i =
      ((ds[i]?).map Dependency.version).map fun old => (old, setSlot.setAt version ds i) := by
  rw [exchange?.dependencyAt]
  cases hd : ds[i]? with
  | none => rfl
  | some d =>
    rw [setSlot.setAt, modify_eq_set hd]
    rfl

theorem pluginAt_eq (ps : List Plugin) (i : Nat) :
    exchange?.pluginAt version ps i =
      ((ps[i]?).map Plugin.version).map fun old => (old, setSlot.setPluginAt version ps i) := by
  rw [exchange?.pluginAt]
  cases hp : ps[i]? with
  | none => rfl
  | some p =>
    rw [setSlot.setPluginAt, modify_eq_set hp]
    rfl

theorem innerAt_eq (ps : List Plugin) (plugin i : Nat) :
    exchange?.innerAt version ps plugin i =
      ((ps[plugin]?).bind fun p => (p.dependencies[i]?).map Dependency.version).map fun old =>
        (old, ps.modify plugin fun p =>
          { p with dependencies := setSlot.setAt version p.dependencies i }) := by
  rw [exchange?.innerAt]
  cases hp : ps[plugin]? with
  | none => rfl
  | some p =>
    rw [modify_eq_set hp, Option.bind_some, Option.bind_some, dependencyAt_eq, Option.map_map]
    rfl

/-- The answer is the text that is read, and the body is the one that is written. -/
theorem exchange?_eq (b : Body) (c : Collection) (i : Nat) :
    b.exchange? version c i = (b.slot? c i).map fun old => (old, b.setSlot version c i) := by
  cases c with
  | dependencies | managedDependencies =>
    rw [exchange?, dependencyAt_eq, Option.map_map]
    rfl
  | plugins | managedPlugins =>
    rw [exchange?, pluginAt_eq, Option.map_map]
    rfl
  | pluginDependencies plugin managed =>
    cases managed with
    | false | true =>
      rw [exchange?, innerAt_eq, Option.map_map]
      rfl

variable {version}

theorem modifyPlugins_of_eq {b : Body} {managed : Bool} {edit : List Plugin → List Plugin}
    (h : edit (b.pluginList managed) = b.pluginList managed) :
    b.modifyPlugins managed edit = b := by
  cases managed with
  | false => exact congrArg (fun ps => { b with plugins := ps }) h
  | true => exact congrArg (fun ps => { b with managedPlugins := ps }) h

/-- Where nothing is read, nothing is written. -/
theorem setSlot_of_slot?_eq_none {b : Body} {c : Collection} {i : Nat} (h : b.slot? c i = none) :
    b.setSlot version c i = b := by
  cases c with
  | dependencies | managedDependencies =>
    rw [setSlot, setSlot.setAt, modify_of_none (Option.map_eq_none_iff.mp h)]
  | plugins | managedPlugins =>
    exact modifyPlugins_of_eq (modify_of_none (Option.map_eq_none_iff.mp h) _)
  | pluginDependencies plugin managed =>
    refine modifyPlugins_of_eq ?_
    cases hp : (b.pluginList managed)[plugin]? with
    | none => exact modify_of_none hp _
    | some p =>
      rw [slot?, hp, Option.bind_some] at h
      refine modify_of_eq hp ?_
      rw [setSlot.setAt, modify_of_none (Option.map_eq_none_iff.mp h)]

end Body

namespace Module

/-- Writes the version text at an address, and answers with the text that was there; nothing if the
module has no entry there. -/
def exchange? (m : Module) (a : Address) (version : String) : Option (Option String × Module) :=
  (m.body? a.scope).bind fun b =>
    (b.exchange? version a.collection a.index).map fun (old, b') =>
      (old, m.modifyBody (fun _ => b') a.scope)

theorem modifyBody_eq_of_body? {m : Module} {scope : Scope} {b : Body}
    (h : m.body? scope = some b) (edit : Body → Body) :
    m.modifyBody edit scope = m.modifyBody (fun _ => edit b) scope := by
  cases scope with
  | main =>
    cases h
    rfl
  | profile i =>
    obtain ⟨p, hp, rfl⟩ := Option.map_eq_some_iff.mp h
    rw [modifyBody, modifyBody, modify_eq_set hp, modify_eq_set hp]

theorem modifyBody_of_none {m : Module} {scope : Scope} (h : m.body? scope = none)
    (edit : Body → Body) : m.modifyBody edit scope = m := by
  cases scope with
  | main => cases h
  | profile i => rw [modifyBody, modify_of_none (Option.map_eq_none_iff.mp h)]

/-- A module stays as it is if the change keeps the body of the scope. -/
theorem modifyBody_of_eq {m : Module} {scope : Scope} {edit : Body → Body}
    (h : ∀ b, m.body? scope = some b → edit b = b) : m.modifyBody edit scope = m := by
  cases hb : m.body? scope with
  | none => exact modifyBody_of_none hb edit
  | some b =>
    rw [modifyBody_eq_of_body? hb, h b hb]
    exact (modifyBody_eq_of_body? hb id).symm.trans (m.modifyBody_id scope)

/-- The answer is the text that is read, and the module is the one that is written. -/
theorem exchange?_eq (m : Module) (a : Address) (version : String) :
    m.exchange? a version = (m.slot? a).map fun old => (old, m.setSlot a version) := by
  rw [exchange?, slot?, setSlot]
  cases hb : m.body? a.scope with
  | none => rfl
  | some b =>
    rw [modifyBody_eq_of_body? hb, Option.bind_some, Option.bind_some, Body.exchange?_eq,
      Option.map_map]
    rfl

/-- A module without an entry at the address stays as it is. -/
theorem setSlot_of_slot?_eq_none {m : Module} {a : Address} (h : m.slot? a = none)
    (version : String) : m.setSlot a version = m := by
  refine modifyBody_of_eq fun b hb => ?_
  rw [slot?, hb, Option.bind_some] at h
  exact Body.setSlot_of_slot?_eq_none h

/-- The addresses of the listing stand for the entries of a module, each for one, and so do their
texts. A version text can be exchanged at these addresses and nowhere else: the answer is the text
that was there, the new text is read at the address, and everything else is as it was. -/
theorem addresses_faithful (m : Module) :
    (∀ d, d ∈ m.declarations ↔ m.Declares d) ∧
      (m.declarations.map Declaration.address).Nodup ∧
      (m.declarations.map fun d => d.address.text).Nodup ∧
      (∀ d ∈ m.declarations, (m.slot? d.address).join = d.version) ∧
      ∀ a version,
        ((m.exchange? a version).isSome = true ↔ ∃ d ∈ m.declarations, d.address = a) ∧
          (m.exchange? a version = none → m.setSlot a version = m) ∧
          ∀ old m', m.exchange? a version = some (old, m') →
            m' = m.setSlot a version ∧ old = (m.slot? a).join ∧
              (m'.slot? a).join = some version ∧ (∀ a' ≠ a, m'.slot? a' = m.slot? a') ∧
              m'.unversioned = m.unversioned := by
  have htexts : (m.declarations.map fun d => d.address.text).Nodup := by
    have hnodup := m.nodup_address_declarations.map Address.text_injective
    rwa [List.map_map] at hnodup
  refine ⟨fun d => mem_declarations_iff, m.nodup_address_declarations, htexts, fun d hd => ?_,
    fun a version => ⟨?_, fun hnone => ?_, fun old m' h => ?_⟩⟩
  · rw [slot?_of_mem_declarations hd, Option.join_some]
  · rw [exchange?_eq, Option.isSome_map, Option.isSome_iff_exists]
    constructor
    · rintro ⟨old, hold⟩
      obtain ⟨d, hd, haddress, _⟩ := slot?_eq_some_iff.mp hold
      exact ⟨d, hd, haddress⟩
    · rintro ⟨d, hd, rfl⟩
      exact ⟨d.version, slot?_of_mem_declarations hd⟩
  · rw [exchange?_eq, Option.map_eq_none_iff] at hnone
    exact setSlot_of_slot?_eq_none hnone version
  · rw [exchange?_eq, Option.map_eq_some_iff] at h
    obtain ⟨_, hold, heq⟩ := h
    cases heq
    refine ⟨rfl, ?_, ?_, fun a' hne => ?_, m.unversioned_setSlot a version⟩
    · rw [hold, Option.join_some]
    · rw [slot?_setSlot, hold, Option.map_some, if_pos rfl, Option.join_some]
    · rw [slot?_setSlot]
      simp only [if_neg hne, Option.map_id']

/-- A module with a dependency, a plugin that has a dependency of its own, and a profile whose
dependency has no version. -/
def withPluginDependency : Module where
  name := "core"
  body :=
    { dependencies := [{ group := "org.a", name := "a", version := some "1.0" }]
      plugins := [
        { group := "org.p", name := "p", version := some "3.0"
          dependencies := [{ group := "org.c", name := "c", version := some "4.0" }] }] }
  profiles := [{ id := "extra", body := { dependencies := [{ group := "org.d", name := "d" }] } }]

theorem addresses_faithful_withPluginDependency :
    ∃ m', withPluginDependency.exchange? ⟨.main, .pluginDependencies 0 false, 0⟩ "4.0.redhat-1" =
        some (some "4.0", m') ∧
      (m'.slot? ⟨.main, .pluginDependencies 0 false, 0⟩).join = some "4.0.redhat-1" ∧
      m'.slot? ⟨.profile 0, .dependencies, 0⟩ = some none ∧
      withPluginDependency.exchange? ⟨.profile 1, .dependencies, 0⟩ "1.0" = none := by
  obtain ⟨_, _, _, _, hexchange⟩ := addresses_faithful withPluginDependency
  have hwrite := (hexchange ⟨.main, .pluginDependencies 0 false, 0⟩ "4.0.redhat-1").2.2 _ _ rfl
  obtain ⟨_, _, hnew, helsewhere, _⟩ := hwrite
  exact ⟨_, rfl, hnew, helsewhere ⟨.profile 0, .dependencies, 0⟩ (by decide), rfl⟩

end Module

end BuildAlign
