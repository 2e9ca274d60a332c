import BuildAlign.Proofs.Alignment.Mapping

/-!
Runs of demands, recorded one after the other in a ledger that starts empty. Each call changes at
most the mapping that it is on; a rejected one changes nothing, and an automatic one never changes
what an earlier one decided. The value of a mapping changes at most once: only an explicit demand
does it, only while the mapping is automatic, and it makes the mapping explicit. In the end there is
one mapping for each property that was demanded. It is kept under its own module and name, and its
scope is where the property is found.
-/

namespace BuildAlign.PropertyLedger

/-- A demand, and the ledger that it is recorded in. -/
structure Call where
  before : PropertyLedger
  demand : Demand

namespace Call

def outcome (r : Reactor) (c : Call) : DemandOutcome :=
  (c.before.record r c.demand).1

def after (r : Reactor) (c : Call) : PropertyLedger :=
  (c.before.record r c.demand).2

/-- Whether the value of a mapping that was there before the call is another one after it. -/
def revises (r : Reactor) (owner : PropertyOwner) (c : Call) : Bool :=
  match c.before.get? owner, (c.after r).get? owner with
  | some m, some m' => m'.new != m.new
  | _, _ => false

/-- What a call leaves as it is. -/
structure Confined (r : Reactor) (c : Call) : Prop where
  others : ∀ owner, owner ≠ ownerFor r c.demand → (c.after r).get? owner = c.before.get? owner
  rejected : c.outcome r = .rejectedConflict → c.after r = c.before
  automatic : c.demand.explicit = false → ∀ owner m, c.before.get? owner = some m →
    ∃ m', (c.after r).get? owner = some m' ∧
      m'.new = m.new ∧ m'.origin = m.origin ∧ m'.explicit = m.explicit

end Call

def calls (r : Reactor) : PropertyLedger → List Demand → List Call
  | _, [] => []
  | ledger, d :: later => ⟨ledger, d⟩ :: calls r (ledger.record r d).2 later

variable {r : Reactor} {ledger : PropertyLedger}

/-! ## One call -/

theorem Call.confined (r : Reactor) (c : Call) : c.Confined r := by
  constructor
  · intro owner howner
    exact get?_record_of_ne howner
  · intro hrejected
    apply record_of_not_isAccepted
    rw [← Call.outcome, hrejected]
    rfl
  · intro hautomatic owner m hm
    rw [Call.after, get?_record]
    split
    · refine ⟨_, rfl, ?_⟩
      rw [hm]
      exact Demand.mapping_kept (Demand.not_displaces_of_automatic hautomatic)
    · exact ⟨m, hm, rfl, rfl, rfl⟩

/-! ## Changes of a value -/

/-- How often the value of a property can still change once there is a mapping for it. -/
def revisionsLeft (ledger : PropertyLedger) (owner : PropertyOwner) : Nat :=
  match ledger.get? owner with
  | none => 1
  | some m => if m.explicit then 0 else 1

theorem revisionsLeft_le (ledger : PropertyLedger) (owner : PropertyOwner) :
    ledger.revisionsLeft owner ≤ 1 := by
  unfold revisionsLeft
  split
  · omega
  · split <;> omega

/-- A change of the value uses up the one that was left. -/
theorem Call.revisionsLeft_after (c : Call) (owner : PropertyOwner) :
    (if c.revises r owner then 1 else 0) + (c.after r).revisionsLeft owner ≤
      c.before.revisionsLeft owner := by
  by_cases howner : owner = ownerFor r c.demand
  · have hafter : (c.after r).get? owner = some (c.demand.mapping r (c.before.get? owner)) := by
      rw [Call.after, get?_record, if_pos howner]
    cases hbefore : c.before.get? owner with
    | none =>
      have hkept : c.revises r owner = false := by
        simp [Call.revises, hbefore]
      have hleft : c.before.revisionsLeft owner = 1 := by
        simp [revisionsLeft, hbefore]
      rw [hkept, hleft]
      simpa using revisionsLeft_le (c.after r) owner
    | some m =>
      rw [hbefore] at hafter
      by_cases hdisplaces : c.demand.Displaces m
      · rw [Demand.mapping_of_displaces hdisplaces] at hafter
        have hleft : c.before.revisionsLeft owner = 1 := by
          simp [revisionsLeft, hbefore, hdisplaces.2.2]
        have hnone : (c.after r).revisionsLeft owner = 0 := by
          simp [revisionsLeft, hafter]
        rw [hleft, hnone]
        split <;> omega
      · obtain ⟨hnew, _, hexplicit⟩ := Demand.mapping_kept (r := r) hdisplaces
        have hkept : c.revises r owner = false := by
          simp [Call.revises, hbefore, hafter, hnew]
        have hleft : (c.after r).revisionsLeft owner = c.before.revisionsLeft owner := by
          simp [revisionsLeft, hbefore, hafter, hexplicit]
        simp [hkept, hleft]
  · have hother : (c.after r).get? owner = c.before.get? owner := (c.confined r).others owner howner
    have hkept : c.revises r owner = false := by
      unfold Call.revises
      rw [hother]
      cases c.before.get? owner <;> simp
    have hleft : (c.after r).revisionsLeft owner = c.before.revisionsLeft owner := by
      rw [revisionsLeft, hother, revisionsLeft]
    simp [hkept, hleft]

theorem countP_revises_le (demands : List Demand) (owner : PropertyOwner) :
    (calls r ledger demands).countP (Call.revises r owner) ≤ ledger.revisionsLeft owner := by
  induction demands generalizing ledger with
  | nil => simp [calls]
  | cons d later ih =>
    have hstep := Call.revisionsLeft_after (r := r) ⟨ledger, d⟩ owner
    have hlater := @ih (ledger.record r d).2
    rw [calls, List.countP_cons]
    simp only [Call.after] at hstep
    omega

/-! ## The mappings in the end -/

theorem mem_keys_recordAll (demands : List Demand) (owner : PropertyOwner) :
    owner ∈ (recordAll r ledger demands).2.keys ↔
      (∃ d ∈ demands, ownerFor r d = owner) ∨ owner ∈ ledger.keys := by
  induction demands generalizing ledger with
  | nil => simp [recordAll]
  | cons d later ih =>
    have hstep : owner ∈ (ledger.record r d).2.keys ↔
        owner = ownerFor r d ∨ owner ∈ ledger.keys := by
      rw [ledger_record, Table.mem_keys_insert]
    simp only [recordAll, ih, hstep, List.exists_mem_cons_iff]
    rw [← or_assoc, or_comm (a := ∃ d ∈ later, _), @eq_comm _ owner]

/-- Every mapping is in the scope where its property is found. -/
def Located (r : Reactor) (ledger : PropertyLedger) : Prop :=
  ∀ owner m, ledger.get? owner = some m →
    m.scope = ((r.module owner.module).ownProperty? owner.name).map Prod.fst

/-- A demand looks its property up in the reactor of before, where nothing is written yet, so the
scope stays the one where the property is found. -/
theorem Located.record (hledger : Located r ledger) (d : Demand) :
    Located r (ledger.record r d).2 := by
  intro owner m hm
  rw [get?_record] at hm
  split at hm
  · rename_i howner
    obtain rfl := Option.some.inj hm
    cases hbefore : ledger.get? owner with
    | none =>
      rw [howner]
      exact scope_ownerOf r d.module d.name
    | some m =>
      rw [Demand.scope_mapping]
      exact hledger owner m hbefore
  · exact hledger owner m hm

theorem Located.recordAll (hledger : Located r ledger) (demands : List Demand) :
    Located r (recordAll r ledger demands).2 := by
  induction demands generalizing ledger with
  | nil => exact hledger
  | cons d later ih => exact ih (hledger.record d)

theorem Keyed.recordAll (hledger : ledger.Keyed) (demands : List Demand) :
    (recordAll r ledger demands).2.Keyed := by
  induction demands generalizing ledger with
  | nil => exact hledger
  | cons d later ih => exact ih (hledger.record r d)

/-- What holds of every sequence of demands: no call changes what it must not, no value changes
twice, and the mappings are those of the properties that were demanded, one for each, in the scope
where every demand on it finds the property. Each is kept under the module and the name that it
holds itself. -/
theorem recordAll_invariant (r : Reactor) (demands : List Demand) :
    (∀ c ∈ calls r ∅ demands, c.Confined r) ∧
      (∀ owner, (calls r ∅ demands).countP (Call.revises r owner) ≤ 1) ∧
      (recordAll r ∅ demands).2.keys.Nodup ∧
      (∀ owner, owner ∈ (recordAll r ∅ demands).2.keys ↔ ∃ d ∈ demands, ownerFor r d = owner) ∧
      (∀ owner m, (recordAll r ∅ demands).2.get? owner = some m →
        m.module = owner.module ∧ m.name = owner.name) ∧
      ∀ d ∈ demands, ∃ m, (recordAll r ∅ demands).2.get? (ownerFor r d) = some m ∧
        ownerOf r d.module d.name = (ownerFor r d, m.scope) := by
  have hkeys : ∀ owner, owner ∈ (recordAll r ∅ demands).2.keys ↔
      ∃ d ∈ demands, ownerFor r d = owner := by
    intro owner
    rw [mem_keys_recordAll]
    simp [Table.not_mem_keys_empty]
  have hlocated : Located r (recordAll r ∅ demands).2 := by
    apply Located.recordAll
    intro owner m hm
    cases hm
  have hkeyed : (recordAll r ∅ demands).2.Keyed := keyed_empty.recordAll demands
  refine ⟨fun c _ => c.confined r, ?_, ?_, hkeys, ?_, ?_⟩
  · intro owner
    exact (countP_revises_le demands owner).trans (revisionsLeft_le ∅ owner)
  · exact List.pairwise_map.mpr (Table.distinct _)
  · intro owner m hm
    obtain rfl := hkeyed owner m hm
    exact ⟨rfl, rfl⟩
  · intro d hd
    have hmem : ownerFor r d ∈ (recordAll r ∅ demands).2.keys := (hkeys _).mpr ⟨d, hd, rfl⟩
    obtain ⟨m, hm⟩ := Option.isSome_iff_exists.mp (Table.mem_keys_iff.mp hmem)
    refine ⟨m, hm, Prod.ext rfl ?_⟩
    rw [hlocated _ m hm]
    exact scope_ownerOf r d.module d.name

end BuildAlign.PropertyLedger
