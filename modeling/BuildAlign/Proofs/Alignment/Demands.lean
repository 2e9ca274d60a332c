import BuildAlign.Proofs.Alignment.Flush
import BuildAlign.Proofs.Reactor.AliasPath

/-!
Recording automatic demands. A demand is written where its property lives if nothing is to be
written there yet, and nothing that is to be written is ever replaced. So an accepted demand is one
whose value is written at the owner of its property in the end.
-/

namespace BuildAlign

def PropertyPlace.owner (place : PropertyPlace) : PropertyOwner where
  module := place.module
  name := place.name

/-- A demand of the automatic alignment: a module asks for a literal value of a property. -/
structure Demand.Automatic (r : Reactor) (d : Demand) : Prop where
  inside : d.module < r.size
  automatic : d.explicit = false
  property : propertyOf? (Template.referenceText d.name) = some d.name
  literal : Template.hasReference d.new = false

namespace PropertyLedger

def ownerFor (r : Reactor) (d : Demand) : PropertyOwner :=
  (ownerOf r d.module d.name).1

/-- Records demands one after the other. Gives the accepted ones and the ledger. -/
def recordAll (r : Reactor) : PropertyLedger → List Demand → List Demand × PropertyLedger
  | ledger, [] => ([], ledger)
  | ledger, d :: later =>
    let (outcome, ledger) := ledger.record r d
    let (accepted, ledger) := recordAll r ledger later
    (if outcome.isAccepted then d :: accepted else accepted, ledger)

/-- Everything that a ledger writes can be written and is a literal value. -/
structure Sound (r : Reactor) (ledger : PropertyLedger) : Prop extends Fits r ledger where
  literal : ∀ owner scope new, ledger.writes? owner = some (scope, new) →
    Template.hasReference new = false

theorem keyed_empty : Keyed ∅ := by
  intro owner m hm
  cases hm

theorem fits_empty (r : Reactor) : Fits r ∅ := by
  refine ⟨keyed_empty, ?_⟩
  intro owner scope new hw
  cases hw

theorem sound_empty (r : Reactor) : Sound r ∅ := by
  refine ⟨fits_empty r, ?_⟩
  intro owner scope new hw
  cases hw

/-! ## Where properties live -/

/-- Where a property is found in the module that it lives in. -/
theorem scope_ownerOf (r : Reactor) (id : Nat) (name : String) :
    (ownerOf r id name).2 =
      ((r.module (ownerOf r id name).1.module).ownProperty? (ownerOf r id name).1.name).map
        Prod.fst := by
  rw [ownerOf]
  cases hlocate : r.locate? id name with
  | none =>
    -- the root is one of the modules in which the property was looked for
    have hnearest := Reactor.locate?_eq_none_iff.mp hlocate
    have hown : (r.module (r.root id)).ownProperty? name = none :=
      r.ownPlace?_eq_none.mp (List.findSome?_eq_none_iff.mp hnearest _ (r.root_mem_chain id))
    simp [hown]
  | some place =>
    obtain ⟨_, _, hown⟩ := Reactor.nearestPlace?_self (Reactor.nearestPlace?_of_locate? hlocate)
    simp [hown]

theorem writable_ownerOf {r : Reactor} {id : Nat} (hid : id < r.size) (name : String) :
    Writable r (ownerOf r id name).1 (ownerOf r id name).2 := by
  refine ⟨?_, scope_ownerOf r id name, ?_⟩
  all_goals
    rw [ownerOf]
    cases hlocate : r.locate? id name with
    | none => simp [r.root_lt hid, r.parent?_root hid]
    | some place =>
      have hnearest := Reactor.nearestPlace?_of_locate? hlocate
      simp [r.lt_of_mem_chain hid (Reactor.nearestPlace?_self hnearest).1]

/-! ## One demand -/

variable {r : Reactor} {ledger : PropertyLedger} {d : Demand}

theorem writes?_insert (owner owner' : PropertyOwner) (m : PropertyMapping) :
    writes? (Table.insert ledger owner m) owner' =
      if owner' = owner then some (m.scope, m.new) else ledger.writes? owner' := by
  rw [writes?, Table.get?_insert]
  split <;> rfl

/-- A mapping that is kept under its own property may join the others. -/
theorem Keyed.insert (h : ledger.Keyed) {owner : PropertyOwner} {m : PropertyMapping}
    (hm : m.owner = owner) : Keyed (Table.insert ledger owner m) := by
  intro owner' m' hm'
  rw [Table.get?_insert] at hm'
  split at hm'
  · rename_i howner
    obtain rfl := Option.some.inj hm'
    exact hm.trans howner.symm
  · exact h owner' m' hm'

/-- A demand makes a mapping that names its property, and no later one moves it. -/
theorem Keyed.record (h : ledger.Keyed) (r : Reactor) (d : Demand) :
    (ledger.record r d).2.Keyed := by
  simp only [PropertyLedger.record]
  cases hget : Table.get? ledger (ownerOf r d.module d.name).1 with
  | none => exact h.insert rfl
  | some m =>
    have hm : m.owner = (ownerOf r d.module d.name).1 := h _ m hget
    dsimp only
    split
    · exact h.insert hm
    · split
      · exact h.insert hm
      · exact h

/-- An automatic demand is accepted if its owner is free or already gets its value, and it changes
what is written only at a free owner. -/
theorem record_automatic (hd : d.explicit = false) :
    (ledger.writes? (ownerFor r d) = none ∧ (ledger.record r d).1.isAccepted = true ∧
      ∀ owner, (ledger.record r d).2.writes? owner =
        if owner = ownerFor r d then some ((ownerOf r d.module d.name).2, d.new)
        else ledger.writes? owner) ∨
    ∃ scope new, ledger.writes? (ownerFor r d) = some (scope, new) ∧
      ((ledger.record r d).1.isAccepted = true → new = d.new) ∧
      ∀ owner, (ledger.record r d).2.writes? owner = ledger.writes? owner := by
  simp only [record]
  cases hget : Table.get? ledger (ownerOf r d.module d.name).1 with
  | none =>
    refine .inl ⟨?_, rfl, fun owner => writes?_insert _ owner _⟩
    rw [writes?, ownerFor, hget, Option.map_none]
  | some m =>
    have hwrites : ledger.writes? (ownerFor r d) = some (m.scope, m.new) := by
      rw [writes?, ownerFor, hget, Option.map_some]
    refine .inr ⟨m.scope, m.new, hwrites, ?_⟩
    dsimp only
    by_cases hnew : m.new = d.new
    · rw [if_pos hnew]
      refine ⟨fun _ => hnew, fun owner => ?_⟩
      rw [writes?_insert]
      split
      · rename_i howner
        rw [howner, ← ownerFor, hwrites]
      · rfl
    · have hstays : ¬ (d.explicit = true ∧ ¬ m.explicit = true) := by
        simp [hd]
      rw [if_neg hnew, if_neg hstays]
      exact ⟨fun haccepted => absurd haccepted Bool.false_ne_true, fun _ => rfl⟩

/-- What is to be written stays so. -/
theorem writes?_record (hd : d.explicit = false) {owner : PropertyOwner}
    {w : Option Scope × String} (hw : ledger.writes? owner = some w) :
    (ledger.record r d).2.writes? owner = some w := by
  rcases record_automatic hd with ⟨hfree, _, hwrites⟩ | ⟨_, _, _, _, hwrites⟩
  · rw [hwrites, if_neg]
    · exact hw
    · rintro rfl
      exact absurd (hfree.symm.trans hw) nofun
  · rw [hwrites, hw]

theorem writes?_record_accepted (hd : d.explicit = false)
    (haccepted : (ledger.record r d).1.isAccepted = true) :
    ∃ scope, (ledger.record r d).2.writes? (ownerFor r d) = some (scope, d.new) := by
  rcases record_automatic hd with ⟨_, _, hwrites⟩ | ⟨scope, new, hw, hnew, hwrites⟩
  · exact ⟨_, (hwrites _).trans (if_pos rfl)⟩
  · obtain rfl := hnew haccepted
    exact ⟨scope, (hwrites _).trans hw⟩

/-- An automatic demand keeps a ledger sound: it asks for a literal value, and where a module reads
a property, that can be written. -/
theorem Sound.record (hledger : Sound r ledger) (hd : d.Automatic r) :
    Sound r (ledger.record r d).2 := by
  have hwritten : ∀ owner scope new, (ledger.record r d).2.writes? owner = some (scope, new) →
      Writable r owner scope ∧ Template.hasReference new = false := by
    intro owner scope new hw
    rcases record_automatic hd.automatic with ⟨_, _, hwrites⟩ | ⟨_, _, _, _, hwrites⟩
    · rw [hwrites] at hw
      split at hw
      · rename_i howner
        obtain ⟨rfl, rfl⟩ := Prod.mk.inj (Option.some.inj hw)
        exact ⟨howner ▸ writable_ownerOf hd.inside d.name, hd.literal⟩
      · exact ⟨hledger.writable owner scope new hw, hledger.literal owner scope new hw⟩
    · rw [hwrites] at hw
      exact ⟨hledger.writable owner scope new hw, hledger.literal owner scope new hw⟩
  constructor
  · exact ⟨hledger.keyed.record r d, fun owner scope new hw => (hwritten owner scope new hw).1⟩
  · exact fun owner scope new hw => (hwritten owner scope new hw).2

/-! ## All demands -/

theorem writes?_recordAll {demands : List Demand} (hall : ∀ d ∈ demands, d.Automatic r)
    {owner : PropertyOwner} {w : Option Scope × String} (hw : ledger.writes? owner = some w) :
    (recordAll r ledger demands).2.writes? owner = some w := by
  induction demands generalizing ledger with
  | nil => exact hw
  | cons d later ih =>
    obtain ⟨hd, hlater⟩ := List.forall_mem_cons.mp hall
    exact ih hlater (writes?_record hd.automatic hw)

theorem sound_recordAll {demands : List Demand} (hall : ∀ d ∈ demands, d.Automatic r)
    (hledger : Sound r ledger) : Sound r (recordAll r ledger demands).2 := by
  induction demands generalizing ledger with
  | nil => exact hledger
  | cons d later ih =>
    obtain ⟨hd, hlater⟩ := List.forall_mem_cons.mp hall
    exact ih hlater (hledger.record hd)

/-- The value of an accepted demand is written at the owner of its property. -/
theorem accepted_written {demands : List Demand} (hall : ∀ d ∈ demands, d.Automatic r)
    (hd : d ∈ (recordAll r ledger demands).1) :
    d ∈ demands ∧
      ∃ scope, (recordAll r ledger demands).2.writes? (ownerFor r d) = some (scope, d.new) := by
  induction demands generalizing ledger with
  | nil => exact absurd hd List.not_mem_nil
  | cons first later ih =>
    obtain ⟨hfirst, hlater⟩ := List.forall_mem_cons.mp hall
    simp only [recordAll] at hd ⊢
    by_cases haccepted : (ledger.record r first).1.isAccepted = true
    · rw [if_pos haccepted] at hd
      rcases List.mem_cons.mp hd with rfl | hd
      · obtain ⟨scope, hw⟩ := writes?_record_accepted hfirst.automatic haccepted
        exact ⟨List.mem_cons_self .., scope, writes?_recordAll hlater hw⟩
      · obtain ⟨hmem, hwritten⟩ := ih hlater hd
        exact ⟨List.mem_cons_of_mem _ hmem, hwritten⟩
    · rw [if_neg haccepted] at hd
      obtain ⟨hmem, hwritten⟩ := ih hlater hd
      exact ⟨List.mem_cons_of_mem _ hmem, hwritten⟩

end PropertyLedger

end BuildAlign
