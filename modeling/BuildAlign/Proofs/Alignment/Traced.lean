import BuildAlign.Proofs.Alignment.Mapping
import BuildAlign.Proofs.Reactor.Frame

/-!
Where the values of a ledger come from. Whatever demands are recorded, and in whatever order, every
value that is to be written was demanded of the property that gets it.
-/

namespace BuildAlign.PropertyLedger

/-- Everything that a ledger writes can be written, and was demanded of its owner. -/
structure Traced (r : Reactor) (demanded : PropertyOwner → String → Prop)
    (ledger : PropertyLedger) : Prop extends Fits r ledger where
  demanded : ∀ owner scope new, ledger.writes? owner = some (scope, new) → demanded owner new

variable {r r' : Reactor} {demanded : PropertyOwner → String → Prop} {ledger : PropertyLedger}
  {d : Demand}

theorem traced_empty (r : Reactor) (demanded : PropertyOwner → String → Prop) :
    Traced r demanded ∅ := by
  refine ⟨fits_empty r, ?_⟩
  intro owner scope new hw
  cases hw

/-- What a ledger writes after a demand was to be written before, or it is the demanded value. The
scope of an owner never changes. -/
theorem writes?_record_cases {owner : PropertyOwner} {scope : Option Scope} {new : String}
    (hw : (ledger.record r d).2.writes? owner = some (scope, new)) :
    ledger.writes? owner = some (scope, new) ∨
      owner = ownerFor r d ∧ new = d.new ∧
        (scope = (ownerOf r d.module d.name).2 ∨
          ∃ old, ledger.writes? owner = some (scope, old)) := by
  rw [writes?, get?_record] at hw
  split at hw
  · rename_i howner
    cases hget : ledger.get? owner with
    | none =>
      rw [hget] at hw
      obtain ⟨rfl, rfl⟩ := Prod.mk.inj (Option.some.inj hw)
      exact .inr ⟨howner, rfl, .inl rfl⟩
    | some m =>
      have hwrites : ledger.writes? owner = some (m.scope, m.new) := by
        rw [writes?, hget, Option.map_some]
      rw [hget, Option.map_some, Demand.scope_mapping] at hw
      obtain ⟨rfl, rfl⟩ := Prod.mk.inj (Option.some.inj hw)
      by_cases hdisplaces : d.Displaces m
      · rw [Demand.mapping_of_displaces hdisplaces]
        exact .inr ⟨howner, rfl, .inr ⟨m.new, hwrites⟩⟩
      · rw [(Demand.mapping_kept hdisplaces).1]
        exact .inl hwrites
  · exact .inl hw

/-- A demand that is made in another reactor of the same frame keeps the ledger traced. -/
theorem Traced.record (hledger : Traced r demanded ledger) (hframe : r.SameFrame r')
    (hinside : d.module < r.size) (hdemanded : demanded (ownerFor r d) d.new) :
    Traced r demanded (ledger.record r' d).2 := by
  have howner : ownerOf r' d.module d.name = ownerOf r d.module d.name :=
    hframe.ownerOf d.module d.name
  have hfor : ownerFor r' d = ownerFor r d := congrArg Prod.fst howner
  constructor
  · refine ⟨hledger.keyed.record r' d, ?_⟩
    intro owner scope new hw
    rcases writes?_record_cases hw with hw | ⟨rfl, _, hscope⟩
    · exact hledger.writable owner scope new hw
    · rw [hfor]
      rcases hscope with rfl | ⟨old, hw⟩
      · rw [howner]
        exact writable_ownerOf hinside d.name
      · rw [hfor] at hw
        exact hledger.writable _ scope old hw
  · intro owner scope new hw
    rcases writes?_record_cases hw with hw | ⟨rfl, rfl, _⟩
    · exact hledger.demanded owner scope new hw
    · exact hfor ▸ hdemanded

end BuildAlign.PropertyLedger
