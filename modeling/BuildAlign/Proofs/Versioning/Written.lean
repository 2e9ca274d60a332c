import BuildAlign.Proofs.Alignment.Flush
import BuildAlign.Proofs.Reactor.Frame
import BuildAlign.Proofs.Versioning.Carriers

/-!
The reactor after version changes, read off the plan. A module has the version, and a declared
parent the version, that was planned last, and a property has its planned value where it was
declared; nothing is declared anew but the version of a root.
-/

namespace BuildAlign

theorem Table.get?_eq_lastFor {κ α : Type} [Key κ] [DecidableEq κ] (t : Table κ α) (k : κ) :
    t.get? k = lastFor (fun e => e.1 = k) Prod.snd t.entries := by
  cases hget : t.get? k with
  | some a =>
    have hmem := Table.mem_of_get? hget
    have hlast := lastFor_eq_some (p := fun e : κ × α => e.1 = k) (f := Prod.snd) hmem
    refine (hlast (decide_eq_true rfl) fun e he hk => ?_).symm
    rw [← of_decide_eq_true hk] at hget
    exact Option.some.inj ((Table.get?_of_mem he).symm.trans hget)
  | none =>
    cases hlast : lastFor (fun e => e.1 = k) Prod.snd t.entries with
    | none => rfl
    | some a =>
      obtain ⟨e, he, hk, _⟩ := exists_of_lastFor hlast
      exact absurd (of_decide_eq_true hk) (Table.ne_of_get?_eq_none hget he)

theorem Reactor.lt_of_ownProperty? {r : Reactor} {id : Nat} {name : String} {e : Scope × String}
    (h : (r.module id).ownProperty? name = some e) : id < r.size := by
  by_contra hout
  have hblank : r.module id = default := by
    rw [Reactor.module, List.getElem?_eq_none (Nat.le_of_not_lt hout)]
    rfl
  rw [hblank] at h
  cases h

namespace VersionChanges

def newAt? (edits : List Edit) (id : Nat) (site : Site) : Option String :=
  lastFor (fun e => e.module = id ∧ e.site = site) Edit.new edits

/-- A reactor with edits and properties written. -/
structure Written (edits : List Edit) (properties : PropertySlot → Option String)
    (r r' : Reactor) : Prop where
  links : r.SameLinks r'
  group : ∀ id, (r'.module id).group = (r.module id).group
  name : ∀ id, (r'.module id).name = (r.module id).name
  version : ∀ id, (r'.module id).version = (newAt? edits id .own).or (r.module id).version
  parent : ∀ id, (r'.module id).parent = (r.module id).parent.map fun p =>
    { p with version := (newAt? edits id .parent).getD p.version }
  property : ∀ id name, (r'.module id).ownProperty? name =
    ((r.module id).ownProperty? name).map fun e => (e.1, (properties ⟨id, e.1, name⟩).getD e.2)

/-! ## Writing the edits -/

theorem written_nil (r : Reactor) : Written [] (fun _ => none) r r := by
  refine ⟨⟨rfl, fun _ => rfl⟩, fun _ => rfl, fun _ => rfl, fun _ => rfl, fun id => ?_,
    fun id name => ?_⟩
  · cases (r.module id).parent <;> rfl
  · cases (r.module id).ownProperty? name <;> rfl

theorem newAt?_concat (edits : List Edit) (e : Edit) (id : Nat) (site : Site) :
    newAt? (edits ++ [e]) id site =
      if e.module = id ∧ e.site = site then some e.new else newAt? edits id site := by
  rw [newAt?, lastFor_concat]
  simp only [decide_eq_true_eq]
  rfl

def Edit.on (e : Edit) (m : Module) : Module :=
  match e.site with
  | .own => { m with version := some e.new }
  | .parent => m.withParentVersion e.new
  | .entry address _ => m.setSlot address e.new

section

variable (e : Edit) (m : Module)

theorem group_on : (e.on m).group = m.group := by
  rw [Edit.on]
  split
  · rfl
  · rfl
  · exact (m.sameFrame_setSlot _ e.new).group

theorem name_on : (e.on m).name = m.name := by
  rw [Edit.on]
  split
  · rfl
  · rfl
  · exact (m.sameFrame_setSlot _ e.new).name

theorem version_on : (e.on m).version = if e.site = .own then some e.new else m.version := by
  rw [Edit.on]
  split
  · rename_i hsite
    rw [if_pos hsite]
  · rename_i hsite
    rw [if_neg (by simp [hsite])]
    rfl
  · rename_i hsite
    rw [if_neg (by simp [hsite])]
    exact (m.sameFrame_setSlot _ e.new).version

theorem parent_on : (e.on m).parent = m.parent.map fun p =>
    { p with version := if e.site = .parent then e.new else p.version } := by
  rw [Edit.on]
  split
  · rename_i hsite
    simp [hsite]
  · rename_i hsite
    simp [hsite, Module.withParentVersion]
  · rename_i hsite
    simp only [hsite, reduceCtorEq, if_false, Option.map_id']
    exact m.parent_modifyBody _ _

theorem ownProperty?_on (name : String) : (e.on m).ownProperty? name = m.ownProperty? name := by
  rw [Edit.on]
  split
  · rfl
  · rfl
  · exact (m.sameFrame_setSlot _ e.new).properties name

end

theorem module_commitEdit {p : Progress} {e : Edit} (he : e.module < p.reactor.size) (id : Nat) :
    ((commitEdit p e).reactor.module id) =
      if e.module = id then e.on (p.reactor.module id) else p.reactor.module id := by
  have hmodify : ∀ edit keeps, (p.reactor.modify e.module edit keeps).module id =
      if e.module = id then edit (p.reactor.module id) else p.reactor.module id := by
    intro edit keeps
    rw [p.reactor.module_modify he]
    by_cases heq : id = e.module
    · rw [if_pos heq, if_pos heq.symm, heq]
    · rw [if_neg heq, if_neg fun h => heq h.symm]
  obtain ⟨module, site, new⟩ := e
  cases site with
  | own => exact hmodify (fun m => { m with version := some new }) fun _ => rfl
  | parent => exact hmodify (Module.withParentVersion new) fun _ => rfl
  | entry address artifact => exact hmodify _ fun m => m.parentModule_modifyBody _ address.scope

theorem sameLinks_commitEdit {p : Progress} {e : Edit} (he : e.module < p.reactor.size) :
    p.reactor.SameLinks (commitEdit p e).reactor := by
  obtain ⟨module, site, new⟩ := e
  cases site with
  | own =>
    exact p.reactor.sameLinks_modify he (fun m => { m with version := some new }) fun _ => rfl
  | parent => exact p.reactor.sameLinks_modify he (Module.withParentVersion new) fun _ => rfl
  | entry address artifact =>
    exact p.reactor.sameLinks_modify he _ fun m => m.parentModule_modifyBody _ address.scope

/-- One more edit. Properties are written after all edits, so none is written yet. -/
theorem Written.edit {edits : List Edit} {r : Reactor} {p : Progress} {e : Edit}
    (h : Written edits (fun _ => none) r p.reactor) (he : e.module < r.size) :
    Written (edits ++ [e]) (fun _ => none) r (commitEdit p e).reactor := by
  have hinside : e.module < p.reactor.size := h.links.size ▸ he
  have hlinks := sameLinks_commitEdit hinside
  have hmodule := module_commitEdit hinside
  constructor
  · exact ⟨hlinks.size.trans h.links.size, fun id => (hlinks.parent id).trans (h.links.parent id)⟩
  · intro id
    rw [hmodule, apply_ite Module.group, group_on, ite_self, h.group]
  · intro id
    rw [hmodule, apply_ite Module.name, name_on, ite_self, h.name]
  · intro id
    rw [hmodule, apply_ite Module.version, version_on, newAt?_concat, h.version]
    grind
  · intro id
    rw [hmodule, apply_ite Module.parent, parent_on, h.parent]
    simp only [newAt?_concat, Option.map_map]
    cases (r.module id).parent <;> grind
  · intro id name
    rw [hmodule, apply_ite (Module.ownProperty? · name), ownProperty?_on, ite_self, h.property]

theorem written_edits {r : Reactor} {report : Report} {edits : List Edit}
    (hinside : ∀ e ∈ edits, e.module < r.size) :
    Written edits (fun _ => none) r
      (edits.foldl commitEdit { reactor := r, report }).reactor := by
  induction edits using List.reverseRecOn with
  | nil => exact written_nil r
  | append_singleton front e ih =>
    obtain ⟨hfront, he⟩ := List.forall_mem_append.mp hinside
    rw [List.foldl_append, List.foldl_cons, List.foldl_nil]
    exact (ih hfront).edit (he e (List.mem_singleton.mpr rfl))

/-! ## Writing the properties -/

def valueIn? (items : List (PropertySlot × String)) (slot : PropertySlot) : Option String :=
  lastFor (fun e => e.1 = slot) Prod.snd items

theorem valueIn?_concat (items : List (PropertySlot × String)) (slot slot' : PropertySlot)
    (new : String) : valueIn? (items ++ [(slot, new)]) slot' =
      if slot = slot' then some new else valueIn? items slot' := by
  simp only [valueIn?, lastFor_concat, decide_eq_true_eq]

/-- A property that is declared already is written in its place. -/
theorem ownProperty?_commitProperty {p : Progress} {slot : PropertySlot} {old : String}
    (hinside : slot.module < p.reactor.size)
    (hown : (p.reactor.module slot.module).ownProperty? slot.name = some (slot.scope, old))
    (new : String) (id : Nat) (name : String) :
    ((commitProperty p (slot, new)).reactor.module id).ownProperty? name =
      if id = slot.module ∧ name = slot.name then some (slot.scope, new)
      else (p.reactor.module id).ownProperty? name := by
  have hmodule := p.reactor.module_setProperty hinside slot.scope slot.name new id
  refine (congrArg (Module.ownProperty? · name) hmodule).trans ?_
  by_cases hid : id = slot.module
  · obtain rfl := hid
    by_cases hname : name = slot.name
    · obtain rfl := hname
      simp only [if_true, and_self, Module.ownProperty?_setProperty hown]
    · simp only [if_true, hname, and_false, if_false]
      exact Module.ownProperty?_setProperty_of_ne _ _ hname _
  · simp only [hid, false_and, if_false]

/-- One more property, in the scope in which the module declares it. -/
theorem Written.property_concat {edits : List Edit} {items : List (PropertySlot × String)}
    {r : Reactor} {p : Progress} {item : PropertySlot × String}
    (h : Written edits (valueIn? items) r p.reactor) {old : String}
    (hown : (r.module item.1.module).ownProperty? item.1.name = some (item.1.scope, old)) :
    Written edits (valueIn? (items ++ [item])) r (commitProperty p item).reactor := by
  obtain ⟨slot, new⟩ := item
  have hinside : slot.module < p.reactor.size := h.links.size ▸ Reactor.lt_of_ownProperty? hown
  have hlinks := p.reactor.sameLinks_setProperty hinside slot.scope slot.name new
  have hkept := p.reactor.sameDeclared_setProperty slot.module slot.scope slot.name new
  refine ⟨⟨hlinks.size.trans h.links.size, fun id => (hlinks.parent id).trans (h.links.parent id)⟩,
    fun id => (hkept id).group.trans (h.group id), fun id => (hkept id).name.trans (h.name id),
    fun id => (hkept id).version.trans (h.version id),
    fun id => (hkept id).parent.trans (h.parent id), fun id name => ?_⟩
  have hbefore := h.property slot.module slot.name
  rw [hown, Option.map_some] at hbefore
  rw [ownProperty?_commitProperty hinside hbefore, h.property]
  by_cases hhere : id = slot.module ∧ name = slot.name
  · obtain ⟨rfl, rfl⟩ := hhere
    rw [if_pos ⟨rfl, rfl⟩, hown, Option.map_some, valueIn?_concat, if_pos rfl, Option.getD_some]
  · -- the slot that is written is another one, whatever the scope
    rw [if_neg hhere]
    refine congrArg (Option.map · _) (funext fun e => ?_)
    rw [valueIn?_concat, if_neg]
    rintro rfl
    exact hhere ⟨rfl, rfl⟩

/-- All planned properties, by induction on their list. -/
theorem written_properties {edits : List Edit} {r : Reactor} {p : Progress}
    {items : List (PropertySlot × String)} (h : Written edits (fun _ => none) r p.reactor)
    (hown : ∀ item ∈ items, ∃ old,
      (r.module item.1.module).ownProperty? item.1.name = some (item.1.scope, old)) :
    Written edits (valueIn? items) r (items.foldl commitProperty p).reactor := by
  induction items using List.reverseRecOn with
  | nil => exact h
  | append_singleton front item ih =>
    obtain ⟨hfront, hitem⟩ := List.forall_mem_append.mp hown
    obtain ⟨old, hold⟩ := hitem item (List.mem_singleton.mpr rfl)
    rw [List.foldl_append, List.foldl_cons, List.foldl_nil]
    exact (ih hfront).property_concat hold

/-! ## Both -/

variable {changes : VersionChanges} {r : Reactor} {report : Report}

/-- Without changes nothing is planned, so a table without changes is no special case. -/
theorem plan_of_isEmpty (hempty : changes.isEmpty = true) : plan changes r report = { report } := by
  have hcarriers : carriers changes r = [] := by
    refine List.eq_nil_iff_forall_not_mem.mpr fun x hx => ?_
    obtain ⟨coordinate, hchanged⟩ := exists_coordinate hx
    rw [Table.get?, List.isEmpty_iff.mp hempty] at hchanged
    cases hchanged
  rw [plan_eq, hcarriers]
  rfl

/-- Planning ends before anything is written, so all texts and places are those of the reactor of
before. -/
theorem apply_eq (changes : VersionChanges) (r : Reactor) (report : Report) :
    changes.apply r report =
      (plan changes r report).properties.entries.foldl commitProperty
        ((plan changes r report).edits.foldl commitEdit
          { reactor := r, report := (plan changes r report).report }) := by
  rw [apply]
  split
  · rename_i hempty
    rw [plan_of_isEmpty hempty]
    rfl
  · rfl

/-- The reactor after version changes has all that is planned, and nothing else has changed in the
coordinates and properties of its modules. -/
theorem apply_written (changes : VersionChanges) (r : Reactor) (report : Report) :
    Written (plan changes r report).edits (plan changes r report).properties.get? r
      (changes.apply r report).reactor := by
  have hedits : ∀ e ∈ (plan changes r report).edits, e.module < r.size := by
    intro e he
    rw [edits_plan] at he
    obtain ⟨x, hx, rfl⟩ := List.mem_map.mp he
    exact (mem_carriers (List.mem_filter.mp hx).1).1
  have hown : ∀ item ∈ (plan changes r report).properties.entries, ∃ old,
      (r.module item.1.module).ownProperty? item.1.name = some (item.1.scope, old) := by
    intro item hitem
    obtain ⟨x, _, hslot, _⟩ := claimed_of_planned (Table.get?_of_mem hitem)
    exact ownProperty?_of_mem_slots hslot
  have hvalues : valueIn? (plan changes r report).properties.entries =
      (plan changes r report).properties.get? :=
    funext fun slot => (Table.get?_eq_lastFor _ slot).symm
  rw [apply_eq, ← hvalues]
  exact written_properties (written_edits hedits) hown

theorem warnings_apply (changes : VersionChanges) (r : Reactor) (report : Report) :
    (changes.apply r report).report.warnings = (plan changes r report).report.warnings := by
  have hedits : ∀ (edits : List Edit) (p : Progress),
      (edits.foldl commitEdit p).report.warnings = p.report.warnings := by
    intro edits
    induction edits with
    | nil => exact fun _ => rfl
    | cons e later ih =>
      intro p
      rw [List.foldl_cons, ih]
      obtain ⟨module, site, new⟩ := e
      cases site <;> rfl
  have hproperties : ∀ (items : List (PropertySlot × String)) (p : Progress),
      (items.foldl commitProperty p).report.warnings = p.report.warnings := by
    intro items
    induction items with
    | nil => exact fun _ => rfl
    | cons item later ih => exact fun p => ih (commitProperty p item)
  rw [apply_eq, hproperties, hedits]

/-! ## Where edits come from -/

theorem carrier_of_newAt? {id : Nat} {site : Site} {new : String}
    (h : newAt? (plan changes r report).edits id site = some new) :
    ∃ x ∈ carriers changes r, x.inPlace = true ∧ x.edit = { module := id, site, new } := by
  obtain ⟨e, he, hsite, rfl⟩ := exists_of_lastFor h
  rw [edits_plan] at he
  obtain ⟨x, hx, rfl⟩ := List.mem_map.mp he
  obtain ⟨rfl, rfl⟩ := of_decide_eq_true hsite
  exact ⟨x, (List.mem_filter.mp hx).1, (List.mem_filter.mp hx).2, rfl⟩

/-- A carrier that is edited in place has its new text, if no other one at its site disagrees. -/
theorem newAt?_of_carrier {x : Carrier} (hx : x ∈ carriers changes r) (hplace : x.inPlace = true)
    (hall : ∀ y ∈ carriers changes r, y.edit.module = x.edit.module → y.edit.site = x.edit.site →
      y.edit.new = x.edit.new) :
    newAt? (plan changes r report).edits x.edit.module x.edit.site = some x.edit.new := by
  have hmem : x.edit ∈ (plan changes r report).edits := by
    rw [edits_plan]
    exact List.mem_map_of_mem (List.mem_filter.mpr ⟨hx, hplace⟩)
  refine lastFor_eq_some hmem (by simp) fun e he hsite => ?_
  rw [edits_plan] at he
  obtain ⟨y, hy, rfl⟩ := List.mem_map.mp he
  obtain ⟨hmodule, hsite⟩ := of_decide_eq_true hsite
  exact hall y (List.mem_filter.mp hy).1 hmodule hsite

/-! ## Look-ups -/

namespace Written

variable {edits : List Edit} {properties : PropertySlot → Option String} {r' : Reactor}

/-- A declaration of a property with the value that is written there, if one is. -/
def place (properties : PropertySlot → Option String) (place : PropertyPlace) : PropertyPlace :=
  { place with value := (properties place.slot).getD place.value }

/-- Every module finds a property where it found it before. -/
theorem nearestPlace? (h : Written edits properties r r') (id : Nat) (name : String) :
    r'.nearestPlace? id name = (r.nearestPlace? id name).map (place properties) := by
  have hown : r'.ownPlace? name = fun m => (r.ownPlace? name m).map (place properties) := by
    funext m
    rw [Reactor.ownPlace?, Reactor.ownPlace?, h.property]
    cases (r.module m).ownProperty? name <;> rfl
  rw [Reactor.nearestPlace?, Reactor.nearestPlace?, h.links.chain, hown, List.map_findSome?]
  rfl

/-- A property is read where it was read before, with the value that was written there, if any. -/
theorem declaredProperty? (h : Written edits properties r r') (id : Nat) (name : String) :
    r'.declaredProperty? id name =
      (r.nearestPlace? id name).map fun p => (properties p.slot).getD p.value := by
  rw [Reactor.declaredProperty?_eq, h.nearestPlace?, Option.map_map]
  rfl

end Written

/-- How a name comes to be looked up as the new version of a carrier. -/
inductive Carrier.Answers (r : Reactor) (id : Nat) (name : String) (x : Carrier) : Prop where
  | part (inPlace : x.inPlace = true) (module : x.edit.module = id)
      (site : x.edit.site = .own ∨ x.edit.site = .parent)
  | property {place : PropertyPlace} (nearest : r.nearestPlace? id name = some place)
      (slot : place.slot ∈ x.slots r)

section

variable (changes : VersionChanges) (r : Reactor) (report : Report) (id : Nat) {name : String}

/-- After version changes the version of a declared parent is the one of before, or the new version
of a carrier. -/
theorem parentVersion_apply (name : String) :
    ((changes.apply r report).reactor.module id).parent.map Parent.version =
        (r.module id).parent.map Parent.version ∨
      ∃ x ∈ carriers changes r, x.Answers r id name ∧
        (r.module id).parent.map Parent.version ≠ none ∧
        ((changes.apply r report).reactor.module id).parent.map Parent.version =
          some x.edit.new := by
  rw [(apply_written changes r report).parent]
  cases hparent : (r.module id).parent with
  | none => exact .inl rfl
  | some parent =>
    cases hnew : newAt? (plan changes r report).edits id .parent with
    | none => exact .inl rfl
    | some new =>
      obtain ⟨x, hx, hplace, hedit⟩ := carrier_of_newAt? hnew
      refine .inr ⟨x, hx, .part hplace ?_ (.inr ?_), ?_, ?_⟩ <;> simp [hedit]

/-- The version of a module, written in itself or in its declared parent. -/
theorem writtenVersion_apply (name : String) :
    ((changes.apply r report).reactor.module id).writtenVersion = (r.module id).writtenVersion ∨
      ∃ x ∈ carriers changes r, x.Answers r id name ∧ (r.module id).writtenVersion ≠ none ∧
        ((changes.apply r report).reactor.module id).writtenVersion = some x.edit.new := by
  have hparent := parentVersion_apply changes r report id name
  simp only [Module.writtenVersion, (apply_written changes r report).version]
  cases hnew : newAt? (plan changes r report).edits id .own with
  | some new =>
    obtain ⟨x, hx, hplace, hedit⟩ := carrier_of_newAt? hnew
    have hfrom := (mem_carriers hx).2
    simp only [Carrier.From, hedit] at hfrom
    obtain ⟨present, hpresent, _⟩ := hfrom
    refine .inr ⟨x, hx, .part hplace ?_ (.inl ?_), ?_, ?_⟩
    · rw [hedit]
    · rw [hedit]
    · intro hnone
      rw [Reactor.version?, Module.writtenVersion, hnone] at hpresent
      cases hpresent
    · rw [hedit]
      rfl
  | none =>
    rw [Option.none_or]
    cases (r.module id).version with
    | some raw => exact .inl rfl
    | none => exact hparent

/-- A name that is no part of the module. -/
theorem lookup_apply_property (hname : ProjectPart.ofName? name = none) :
    (changes.apply r report).reactor.lookup id name = r.lookup id name ∨
      ∃ x ∈ carriers changes r, x.Answers r id name ∧ r.lookup id name ≠ none ∧
        (changes.apply r report).reactor.lookup id name = some x.edit.new := by
  simp only [Reactor.lookup, hname, (apply_written changes r report).declaredProperty?,
    Reactor.declaredProperty?_eq]
  cases hnearest : r.nearestPlace? id name with
  | none => exact .inl rfl
  | some place =>
    cases hnew : (plan changes r report).properties.get? place.slot with
    | none => exact .inl (by simp [hnew])
    | some new =>
      obtain ⟨x, hx, hslot, rfl⟩ := claimed_of_planned hnew
      refine .inr ⟨x, hx, .property hnearest hslot, by simp, ?_⟩
      rw [Option.map_some, hnew]
      rfl

end

/-- After version changes a name is looked up as before, or as the new version of a carrier. -/
theorem lookup_apply (changes : VersionChanges) (r : Reactor) (report : Report) (id : Nat)
    (name : String) :
    (changes.apply r report).reactor.lookup id name = r.lookup id name ∨
      ∃ x ∈ carriers changes r, x.Answers r id name ∧ r.lookup id name ≠ none ∧
        (changes.apply r report).reactor.lookup id name = some x.edit.new := by
  cases hpart : ProjectPart.ofName? name with
  | none => exact lookup_apply_property changes r report id hpart
  | some part =>
    have h := apply_written changes r report
    simp only [Reactor.lookup, hpart]
    cases part with
    | version => exact writtenVersion_apply changes r report id name
    | parentVersion => exact parentVersion_apply changes r report id name
    | group =>
      simp only [ProjectPart.of, Module.writtenGroup, h.group, h.parent, Option.map_map]
      exact .inl rfl
    | name => exact .inl (congrArg some (h.name id))
    | parentGroup =>
      simp only [ProjectPart.of, h.parent, Option.map_map]
      exact .inl rfl

/-- A name that stands for nothing does so after version changes. -/
theorem lookup_apply_eq_none {changes : VersionChanges} {r : Reactor} {report : Report} {id : Nat}
    {name : String} (hnone : r.lookup id name = none) :
    (changes.apply r report).reactor.lookup id name = none := by
  rcases lookup_apply changes r report id name with hsame | ⟨_, _, _, hsome, _⟩
  · exact hsame.trans hnone
  · exact absurd hnone hsome

end VersionChanges

end BuildAlign
