import BuildAlign.Proofs.Alignment.Effective
import BuildAlign.Proofs.Alignment.Mapping

/-!
A single demand, recorded in an empty ledger and flushed. It is written at one place only, the last
one of the alias path that the demanding module follows. So no other value cuts the path off before
it, and the module reads what it demanded, whether the property is declared or not and however far
its aliases lead.
-/

namespace BuildAlign.PropertyLedger

variable {r : Reactor} {d : Demand}

/-- A first demand is the only one that is written. -/
theorem writes?_record_empty (r : Reactor) (d : Demand) (owner : PropertyOwner) :
    (record ∅ r d).2.writes? owner =
      if owner = ownerFor r d then some ((ownerOf r d.module d.name).2, d.new) else none := by
  rw [ledger_record, writes?_insert]
  rfl

theorem eq_of_writes?_record_empty {owner : PropertyOwner} {w : Option Scope × String}
    (hw : (record ∅ r d).2.writes? owner = some w) :
    owner = ownerFor r d ∧ w = ((ownerOf r d.module d.name).2, d.new) := by
  rw [writes?_record_empty] at hw
  split at hw
  · rename_i howner
    exact ⟨howner, (Option.some.inj hw).symm⟩
  · cases hw

theorem sound_record_empty (hinside : d.module < r.size)
    (hliteral : Template.hasReference d.new = false) : Sound r (record ∅ r d).2 := by
  refine ⟨⟨keyed_empty.record r d, ?_⟩, ?_⟩
  · intro owner scope new hw
    obtain ⟨rfl, hwritten⟩ := eq_of_writes?_record_empty hw
    obtain ⟨rfl, _⟩ := Prod.mk.inj hwritten
    exact writable_ownerOf hinside d.name
  · intro owner scope new hw
    obtain ⟨_, hwritten⟩ := eq_of_writes?_record_empty hw
    obtain ⟨_, rfl⟩ := Prod.mk.inj hwritten
    exact hliteral

/-- The only value that is written on a path is the demanded one. -/
theorem eq_of_firstWrite?_record_empty {path : List PropertyPlace} {value : String}
    (hfirst : (record ∅ r d).2.firstWrite? path = some value) : value = d.new := by
  obtain ⟨place, -, hplace⟩ := List.exists_of_findSome?_eq_some hfirst
  obtain ⟨w, hw, rfl⟩ := Option.map_eq_some_iff.mp hplace
  rw [(eq_of_writes?_record_empty hw).2]

/-- A property reads as a module demanded it, automatically or explicitly. -/
theorem resolve_demanded (p : Progress) (d : Demand) (hinside : d.module < p.reactor.size)
    (hproperty : propertyOf? (Template.referenceText d.name) = some d.name)
    (hliteral : Template.hasReference d.new = false) :
    ((record ∅ p.reactor d).2.flush p).reactor.resolve d.module (Template.referenceText d.name) =
      d.new := by
  have hsound : Sound p.reactor (record ∅ p.reactor d).2 := sound_record_empty hinside hliteral
  have hw : (record ∅ p.reactor d).2.writes? (ownerFor p.reactor d) =
      some ((ownerOf p.reactor d.module d.name).2, d.new) := by
    rw [writes?_record_empty, if_pos rfl]
  rw [ownerFor, ownerOf] at hw
  cases hlocate : p.reactor.locate? d.module d.name with
  | none =>
    rw [hlocate] at hw
    exact resolve_flush_undeclared hsound hproperty (Reactor.locate?_eq_none_iff.mp hlocate) hw
  | some place =>
    rw [hlocate] at hw
    obtain ⟨value, hfirst⟩ := exists_firstWrite? hlocate hw
    rw [resolve_flush hsound hproperty hfirst, eq_of_firstWrite?_record_empty hfirst]

/-! ## A cycle of aliases -/

/-- A profile of the child declares `x` as an alias of `y`, and the root closes the cycle. -/
def aliasCycle : Progress where
  reactor := {
    modules := [
      { group := some "org.a", name := "root", version := some "1",
        body := {
          properties := Table.ofList [("y", "$\x7bz\x7d"), ("z", "$\x7bx\x7d")] } },
      { name := "child", parentModule := some 0,
        profiles := [
          { id := "ci", body := { properties := Table.ofList [("x", "$\x7by\x7d")] } }] }]
    forest := Reactor.forest_of_checks (by simp) (by decide) (by decide) }
  report := {}

/-- The child demands a value of `x`. -/
def cycleDemand : Demand where
  module := 1
  name := "x"
  new := "2.0"
  origin := { group := "org.b", name := "lib" }
  explicit := true

/-- The demand is written at `y`, where the hops along the cycle end. -/
theorem resolve_aliasCycle :
    (record ∅ aliasCycle.reactor cycleDemand).2.keys = [⟨0, "y"⟩] ∧
      ((record ∅ aliasCycle.reactor cycleDemand).2.flush aliasCycle).reactor.resolve 1
        (Template.referenceText "x") = "2.0" := by
  constructor
  · decide +kernel
  · apply resolve_demanded aliasCycle cycleDemand
    · decide
    · decide +kernel
    · decide +kernel

end BuildAlign.PropertyLedger
