import BuildAlign.Alignment.PropertyLedger
import BuildAlign.Proofs.Reactor.Chain
import BuildAlign.Proofs.Module.Declarations
import BuildAlign.Proofs.Reactor.Declaration
import BuildAlign.Proofs.Table

/-!
What writing a ledger does to the declarations. Every mapping is written where the property is
found, so afterwards a look-up finds the new value at the owner of a mapping and what it found
before everywhere else. Nothing but properties is written.
-/

namespace BuildAlign

namespace PropertyLedger

/-- The scope and the value that a ledger writes for an owner. -/
def writes? (ledger : PropertyLedger) (owner : PropertyOwner) : Option (Option Scope × String) :=
  (ledger.get? owner).map fun m => (m.scope, m.new)

/-- A property that can be written: the owner is a module, and the scope is the one where the
property is found in it. Where it is not found, the owner has no parent. -/
structure Writable (r : Reactor) (owner : PropertyOwner) (scope : Option Scope) : Prop where
  inside : owner.module < r.size
  scope_found : scope = ((r.module owner.module).ownProperty? owner.name).map Prod.fst
  undeclared : scope = none → r.parent? owner.module = none

/-- Every mapping is kept under the property that it is written to. -/
def Keyed (ledger : PropertyLedger) : Prop :=
  ∀ owner m, ledger.get? owner = some m → m.owner = owner

/-- A ledger whose mappings can all be written, each where it is kept. -/
structure Fits (r : Reactor) (ledger : PropertyLedger) : Prop where
  keyed : ledger.Keyed
  writable : ∀ owner scope new, ledger.writes? owner = some (scope, new) → Writable r owner scope

/-! ## One mapping -/

section

variable {p : Progress} {m : PropertyMapping}

/-- Writing a mapping sets the property, unless it has the value already. -/
theorem reactor_write (p : Progress) (m : PropertyMapping) :
    (write p m).reactor =
      if (p.reactor.module m.module).property? (m.scope.getD .main) m.name = some m.new then
        p.reactor
      else p.reactor.setProperty m.module (m.scope.getD .main) m.name m.new := by
  cases hscope : m.scope with
  | none =>
    simp only [write, hscope, Option.isSome_none, Bool.false_eq_true, if_false, Progress.warn]
    split <;> rfl
  | some scope =>
    simp only [write, hscope, Option.isSome_some, if_true]
    split <;> rfl

theorem sameLinks_write (h : Writable p.reactor m.owner m.scope) :
    p.reactor.SameLinks (write p m).reactor := by
  rw [reactor_write]
  split
  · exact ⟨rfl, fun _ => rfl⟩
  · exact p.reactor.sameLinks_setProperty h.inside _ _ _

theorem ownProperty?_write_self (h : Writable p.reactor m.owner m.scope) :
    ((write p m).reactor.module m.module).ownProperty? m.name =
      some (m.scope.getD .main, m.new) := by
  have hinside : m.module < p.reactor.size := h.inside
  have hscope := h.scope_found
  rw [PropertyMapping.owner] at hscope
  rw [reactor_write]
  cases hown : (p.reactor.module m.module).ownProperty? m.name with
  | none =>
    rw [hown, Option.map_none] at hscope
    rw [hscope, Option.getD_none, Module.property?_main_of_ownProperty?_eq_none hown,
      if_neg nofun, Reactor.module_setProperty _ hinside, if_pos rfl]
    exact Module.ownProperty?_setProperty_main _ _ _
  | some found =>
    obtain ⟨scope, old⟩ := found
    rw [hown, Option.map_some] at hscope
    rw [hscope, Option.getD_some, Module.property?_of_ownProperty? hown]
    split
    · rename_i hsame
      rw [hown, Option.some.inj hsame]
    · rw [Reactor.module_setProperty _ hinside, if_pos rfl]
      exact Module.ownProperty?_setProperty hown _

theorem ownProperty?_write_of_ne (h : Writable p.reactor m.owner m.scope) {owner : PropertyOwner}
    (hne : owner ≠ m.owner) :
    ((write p m).reactor.module owner.module).ownProperty? owner.name =
      (p.reactor.module owner.module).ownProperty? owner.name := by
  have hinside : m.module < p.reactor.size := h.inside
  rw [reactor_write]
  split
  · rfl
  · rw [Reactor.module_setProperty _ hinside]
    split
    · rename_i hmodule
      have hname : owner.name ≠ m.name := by
        intro hname
        obtain ⟨module, name⟩ := owner
        exact hne (by rw [PropertyMapping.owner, ← hmodule, ← hname])
      rw [Module.ownProperty?_setProperty_of_ne _ _ hname, hmodule]
    · rfl

/-- Writing one property leaves every other one as writable as it was: neither its scope nor the
links change. -/
theorem Writable.write {owner : PropertyOwner} {scope : Option Scope}
    (h' : Writable p.reactor owner scope) (h : Writable p.reactor m.owner m.scope)
    (hne : owner ≠ m.owner) : Writable (PropertyLedger.write p m).reactor owner scope where
  inside := (sameLinks_write h).size ▸ h'.inside
  scope_found := by rw [ownProperty?_write_of_ne h hne, ← h'.scope_found]
  undeclared := fun hnone => ((sameLinks_write h).parent owner.module).trans (h'.undeclared hnone)

end

/-! ## All mappings -/

/-- After the mappings are written, the walks are the same, every owner has its new value, and all
other properties are found as before. -/
structure Written (p p' : Progress) (mappings : List PropertyMapping) : Prop where
  links : p.reactor.SameLinks p'.reactor
  owned : ∀ m ∈ mappings, (p'.reactor.module m.module).ownProperty? m.name =
    some (m.scope.getD .main, m.new)
  others : ∀ owner : PropertyOwner, (∀ m ∈ mappings, m.owner ≠ owner) →
    (p'.reactor.module owner.module).ownProperty? owner.name =
      (p.reactor.module owner.module).ownProperty? owner.name

/-- Mappings of different properties do not get in each other's way, so they can be written in any
order. -/
theorem written_foldl {p : Progress} {mappings : List PropertyMapping}
    (hwritable : ∀ m ∈ mappings, Writable p.reactor m.owner m.scope)
    (hdistinct : mappings.Pairwise fun m m' => m.owner ≠ m'.owner) :
    Written p (mappings.foldl write p) mappings := by
  induction mappings generalizing p with
  | nil => exact ⟨⟨rfl, fun _ => rfl⟩, nofun, fun _ _ => rfl⟩
  | cons m later ih =>
    obtain ⟨hfirst, hdistinct⟩ := List.pairwise_cons.mp hdistinct
    obtain ⟨hm, hwritable⟩ := List.forall_mem_cons.mp hwritable
    have hlater : Written (write p m) (later.foldl write (write p m)) later := by
      apply ih _ hdistinct
      intro m' hm'
      exact (hwritable m' hm').write hm (hfirst m' hm').symm
    have hlinks := sameLinks_write hm
    refine ⟨⟨hlater.links.size.trans hlinks.size, fun id =>
      (hlater.links.parent id).trans (hlinks.parent id)⟩, ?_, ?_⟩
    · intro m' hm'
      rcases List.mem_cons.mp hm' with rfl | hm'
      · -- the later mappings have other owners and leave this one as it is
        have hkept := hlater.others m'.owner fun m'' hm'' => (hfirst m'' hm'').symm
        exact hkept.trans (ownProperty?_write_self hm)
      · exact hlater.owned m' hm'
    · intro owner howner
      obtain ⟨hne, howner⟩ := List.forall_mem_cons.mp howner
      rw [List.foldl_cons, hlater.others owner howner]
      exact ownProperty?_write_of_ne hm hne.symm

variable {ledger : PropertyLedger} {p : Progress}

theorem Keyed.of_mem (h : ledger.Keyed) {e : PropertyOwner × PropertyMapping}
    (he : e ∈ ledger.entries) : e.2.owner = e.1 :=
  h e.1 e.2 (Table.get?_of_mem he)

/-- The mappings of a ledger are for different properties, as each is kept under its own one. -/
theorem Keyed.distinct (h : ledger.Keyed) :
    ledger.values.Pairwise fun m m' => m.owner ≠ m'.owner := by
  rw [Table.values, List.pairwise_map]
  refine ledger.distinct.imp_of_mem fun he he' hne => ?_
  rwa [h.of_mem he, h.of_mem he']

theorem Fits.of_mem_values (h : ledger.Fits p.reactor) {m : PropertyMapping}
    (hm : m ∈ ledger.values) : Writable p.reactor m.owner m.scope := by
  obtain ⟨owner, hget⟩ := Table.mem_values_iff.mp hm
  apply h.writable m.owner m.scope m.new
  rw [h.keyed owner m hget, writes?, hget, Option.map_some]

theorem written_flush (h : ledger.Fits p.reactor) : Written p (ledger.flush p) ledger.values :=
  written_foldl (fun _ => h.of_mem_values) h.keyed.distinct

/-- After the flush a module declares what the ledger has for it, in the scope of the mapping, and
otherwise what it declared before. -/
theorem ownProperty?_flush (h : ledger.Fits p.reactor) (owner : PropertyOwner) :
    ((ledger.flush p).reactor.module owner.module).ownProperty? owner.name =
      match ledger.writes? owner with
      | some (scope, new) => some (scope.getD .main, new)
      | none => (p.reactor.module owner.module).ownProperty? owner.name := by
  have hwritten := written_flush h
  rw [writes?]
  cases hget : ledger.get? owner with
  | none =>
    refine hwritten.others owner fun m hm howner => ?_
    obtain ⟨key, hm⟩ := Table.mem_values_iff.mp hm
    rw [← howner, h.keyed key m hm, hm] at hget
    cases hget
  | some m =>
    obtain rfl := h.keyed owner m hget
    exact hwritten.owned m (Table.mem_values_iff.mpr ⟨_, hget⟩)

/-! ## Everything but properties -/

/-- What setting a property keeps is kept when the ledger is written. -/
theorem flush_induction {P : Module → Prop}
    (hset : ∀ (m : Module) (scope : Scope) (name value : String), P m →
      P (m.setProperty scope name value))
    (ledger : PropertyLedger) {p : Progress} {id : Nat} (h : P (p.reactor.module id)) :
    P ((ledger.flush p).reactor.module id) := by
  rw [flush]
  induction ledger.values generalizing p with
  | nil => exact h
  | cons m later ih =>
    refine ih ?_
    rw [reactor_write]
    split
    · exact h
    · rcases p.reactor.module_setProperty_cases m.module (m.scope.getD .main) m.name m.new
        id with hsame | ⟨_, hwritten⟩
      · exact hsame ▸ h
      · exact hwritten ▸ hset _ _ _ _ h

end PropertyLedger

/-- Two modules that differ at most in their properties, as far as versions go. -/
structure Module.SameDeclared (m m' : Module) : Prop where
  group : m'.group = m.group
  name : m'.name = m.name
  version : m'.version = m.version
  parent : m'.parent = m.parent
  declarations : m'.declarations = m.declarations

theorem Module.SameDeclared.refl (m : Module) : m.SameDeclared m :=
  ⟨rfl, rfl, rfl, rfl, rfl⟩

theorem Module.SameDeclared.trans {m m' m'' : Module} (h : m.SameDeclared m')
    (h' : m'.SameDeclared m'') : m.SameDeclared m'' :=
  ⟨h'.group.trans h.group, h'.name.trans h.name, h'.version.trans h.version,
    h'.parent.trans h.parent, h'.declarations.trans h.declarations⟩

theorem Module.sameDeclared_setProperty (m : Module) (scope : Scope) (name value : String) :
    m.SameDeclared (m.setProperty scope name value) := by
  refine ⟨?_, ?_, ?_, ?_, m.declarations_setProperty scope name value⟩
  all_goals cases scope <;> rfl

theorem Reactor.sameDeclared_setProperty (r : Reactor) (id : Nat) (scope : Scope)
    (name value : String) (id' : Nat) :
    (r.module id').SameDeclared ((r.setProperty id scope name value).module id') := by
  rcases r.module_setProperty_cases id scope name value id' with hsame | ⟨_, hset⟩
  · rw [hsame]
    exact .refl _
  · rw [hset]
    exact Module.sameDeclared_setProperty ..

namespace PropertyLedger

theorem sameDeclared_flush (ledger : PropertyLedger) (p : Progress) (id : Nat) :
    (p.reactor.module id).SameDeclared ((ledger.flush p).reactor.module id) := by
  apply flush_induction (P := (p.reactor.module id).SameDeclared)
  · exact fun m scope name value h => h.trans (m.sameDeclared_setProperty scope name value)
  · exact .refl _

end PropertyLedger

end BuildAlign
