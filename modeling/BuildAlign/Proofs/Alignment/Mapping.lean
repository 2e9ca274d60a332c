import BuildAlign.Proofs.Alignment.Demands

/-!
What a demand makes of the ledger. It changes the mapping of the property that it is on, by a rule
that looks at this mapping alone, and it leaves every other mapping as it is.
-/

namespace BuildAlign

namespace Demand

/-- What a demand makes of the mapping of its property. -/
def mapping (r : Reactor) (d : Demand) : Option PropertyMapping → PropertyMapping
  | none =>
    { module := (PropertyLedger.ownerFor r d).module
      scope := (PropertyLedger.ownerOf r d.module d.name).2
      name := (PropertyLedger.ownerFor r d).name
      old := r.resolve d.module (Template.referenceText d.name)
      new := d.new
      origin := d.origin
      explicit := d.explicit
      demandedBy := .ofList [d.origin] }
  | some m =>
    if m.new = d.new then { m with demandedBy := m.demandedBy.add d.origin }
    else if d.explicit ∧ ¬ m.explicit then
      { m with
        new := d.new
        origin := d.origin
        explicit := true
        demandedBy := .ofList [d.origin] }
    else m

/-- Whether a mapping gives way to a demand. -/
def Displaces (d : Demand) (m : PropertyMapping) : Prop :=
  m.new ≠ d.new ∧ d.explicit = true ∧ m.explicit = false

variable {r : Reactor} {d : Demand} {m : PropertyMapping}

theorem mapping_of_repeated (h : m.new = d.new) :
    d.mapping r (some m) = { m with demandedBy := m.demandedBy.add d.origin } :=
  if_pos h

/-- An explicit demand for another value takes an automatic mapping over. The earlier demanders are
forgotten. -/
theorem mapping_of_displaces (h : d.Displaces m) :
    d.mapping r (some m) =
      { m with
        new := d.new
        origin := d.origin
        explicit := true
        demandedBy := .ofList [d.origin] } := by
  obtain ⟨hnew, hexplicit, hautomatic⟩ := h
  simp [mapping, hnew, hexplicit, hautomatic]

theorem mapping_of_rejected (hnew : m.new ≠ d.new) (h : ¬ d.Displaces m) :
    d.mapping r (some m) = m := by
  have hstays : ¬ (d.explicit = true ∧ ¬ m.explicit = true) := by
    rintro ⟨hexplicit, hautomatic⟩
    exact h ⟨hnew, hexplicit, by simpa using hautomatic⟩
  simp only [mapping, if_neg hnew, if_neg hstays]

/-- A mapping that does not give way keeps all but the artifacts that demanded its value. -/
theorem mapping_kept (h : ¬ d.Displaces m) :
    (d.mapping r (some m)).new = m.new ∧ (d.mapping r (some m)).origin = m.origin ∧
      (d.mapping r (some m)).explicit = m.explicit := by
  by_cases hnew : m.new = d.new
  · rw [mapping_of_repeated hnew]
    exact ⟨rfl, rfl, rfl⟩
  · rw [mapping_of_rejected hnew h]
    exact ⟨rfl, rfl, rfl⟩

theorem scope_mapping (r : Reactor) (d : Demand) (m : PropertyMapping) :
    (d.mapping r (some m)).scope = m.scope := by
  simp only [mapping]
  split
  · rfl
  · split <;> rfl

/-- An automatic demand displaces nothing. -/
theorem not_displaces_of_automatic (h : d.explicit = false) : ¬ d.Displaces m := by
  rintro ⟨_, hexplicit, _⟩
  rw [h] at hexplicit
  cases hexplicit

end Demand

namespace PropertyLedger

variable {r : Reactor} {ledger : PropertyLedger} {d : Demand}

/-- A rejected demand leaves the ledger as it is. -/
theorem record_of_not_isAccepted (r : Reactor) (ledger : PropertyLedger) (d : Demand)
    (h : (ledger.record r d).1.isAccepted = false) : (ledger.record r d).2 = ledger := by
  simp only [record] at h ⊢
  split at h
  · cases h
  · split at h
    · cases h
    · rename_i hnew
      split at h
      · cases h
      · rename_i hstays
        simp only [if_neg hnew, if_neg hstays]

/-- The ledger gets the mapping that the demand makes of the one that is there. A rejected demand
makes the same one of it. -/
theorem ledger_record (ledger : PropertyLedger) (r : Reactor) (d : Demand) :
    (ledger.record r d).2 =
      Table.insert ledger (ownerFor r d) (d.mapping r (ledger.get? (ownerFor r d))) := by
  simp only [record, ownerFor]
  cases hget : Table.get? ledger (ownerOf r d.module d.name).1 with
  | none => rfl
  | some m =>
    dsimp only
    split
    · rename_i hnew
      rw [Demand.mapping_of_repeated hnew]
    · rename_i hnew
      split
      · rename_i hexplicit
        have hdisplaces : d.Displaces m :=
          ⟨hnew, hexplicit.1, by simpa using hexplicit.2⟩
        rw [Demand.mapping_of_displaces hdisplaces]
      · rename_i hexplicit
        have hstays : ¬ d.Displaces m := by
          rintro ⟨_, hexplicit', hautomatic⟩
          exact hexplicit ⟨hexplicit', by simp [hautomatic]⟩
        rw [Demand.mapping_of_rejected hnew hstays, Table.insert_of_get? hget]

/-- A demand changes the mapping of its own property and no other. -/
theorem get?_record (ledger : PropertyLedger) (r : Reactor) (d : Demand) (owner : PropertyOwner) :
    (ledger.record r d).2.get? owner =
      if owner = ownerFor r d then some (d.mapping r (ledger.get? owner))
      else ledger.get? owner := by
  rw [ledger_record, Table.get?_insert]
  split
  · rename_i howner
    rw [howner]
  · rfl

/-- A demand leaves every mapping alone that it is not on. -/
theorem get?_record_of_ne {owner : PropertyOwner} (howner : owner ≠ ownerFor r d) :
    (ledger.record r d).2.get? owner = ledger.get? owner := by
  rw [get?_record, if_neg howner]

end PropertyLedger

end BuildAlign
