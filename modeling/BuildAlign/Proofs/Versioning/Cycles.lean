import BuildAlign.Proofs.Reactor.Simple
import BuildAlign.Proofs.Version.Concrete
import BuildAlign.Proofs.Versioning.Written
import Mathlib.Logic.Relation

/-!
Property cycles. A name leads to the names that its text refers to; a reactor is acyclic if no name
of a module leads back to itself. Version changes write texts of three kinds: without references,
which lead nowhere; with references to names that stand for nothing, which end there; and texts with
other references, which come from versions that could not be resolved. Only the last ones can close
a cycle.
-/

namespace BuildAlign

namespace Reactor

/-- A name leads to the names in the text that it stands for in a module. -/
def LeadsTo (r : Reactor) (id : Nat) (name next : String) : Prop :=
  ∃ value, r.lookup id name = some value ∧ next ∈ Template.references value

/-- No name of any module leads back to itself. -/
def Acyclic (r : Reactor) : Prop :=
  ∀ id < r.size, ∀ name, ¬ Relation.TransGen (r.LeadsTo id) name name

variable {r r' : Reactor}

/-- Names that lead nowhere close no cycle: a reactor is acyclic if every other step is one of an
acyclic reactor. -/
theorem Acyclic.of_steps (h : r.Acyclic) (hsize : r'.size = r.size)
    (hstep : ∀ id < r.size, ∀ name next, r'.LeadsTo id name next →
      r.LeadsTo id name next ∨ ∀ last, ¬ r'.LeadsTo id next last) : r'.Acyclic := by
  intro id hid name hcycle
  rw [hsize] at hid
  have hpath : ∀ last, Relation.TransGen (r'.LeadsTo id) name last →
      (∃ next, r'.LeadsTo id last next) → Relation.TransGen (r.LeadsTo id) name last := by
    intro last hlast
    induction hlast with
    | single hfirst =>
      rintro ⟨next, hnext⟩
      exact .single ((hstep id hid _ _ hfirst).resolve_right fun hend => hend next hnext)
    | tail _ hlast ih =>
      rintro ⟨next, hnext⟩
      have hold := (hstep id hid _ _ hlast).resolve_right fun hend => hend next hnext
      exact (ih ⟨_, hlast⟩).tail hold
  obtain ⟨next, hnext, _⟩ := Relation.TransGen.head'_iff.mp hcycle
  exact h id hid name (hpath name hcycle ⟨next, hnext⟩)

/-- A reactor is acyclic if its properties have values without references and the parts of its
modules refer to no parts. -/
theorem acyclic_of_values
    (hvalues : ∀ m ∈ r.modules, ∀ e ∈ m.bodies, ∀ property ∈ e.2.properties.entries,
      Template.hasReference property.2 = false)
    (hparts : ∀ id < r.size, ∀ part, ∀ value ∈ ProjectPart.of (r.module id) part,
      ∀ name ∈ Template.references value, ProjectPart.ofName? name = none) : r.Acyclic := by
  have hproperty : ∀ id name next, ProjectPart.ofName? name = none → ¬ r.LeadsTo id name next := by
    rintro id name next hname ⟨value, hlookup, hnext⟩
    simp only [lookup, hname, declaredProperty?_eq] at hlookup
    obtain ⟨place, hplace, rfl⟩ := Option.map_eq_some_iff.mp hlookup
    obtain ⟨_, _, hown⟩ := nearestPlace?_self hplace
    have hconcrete : Template.hasReference place.value = false :=
      forall_ownProperty? (P := fun value => Template.hasReference value = false) hvalues hown
    rw [Template.references_of_not_hasReference hconcrete] at hnext
    exact absurd hnext List.not_mem_nil
  intro id hid name hcycle
  obtain ⟨next, ⟨value, hlookup, hnext⟩, hback⟩ := Relation.TransGen.head'_iff.mp hcycle
  cases hpart : ProjectPart.ofName? name with
  | none => exact hproperty id name next hpart ⟨value, hlookup, hnext⟩
  | some part =>
    simp only [lookup, hpart] at hlookup
    have hnone := hparts id hid part value hlookup next hnext
    rcases hback.cases_head with rfl | ⟨later, hlater, _⟩
    · cases hpart.symm.trans hnone
    · exact hproperty id next later hnone hlater

end Reactor

/-! ## What a policy computes -/

namespace VersionPolicy

/-- The texts of the policy have no references. -/
structure Concrete (policy : VersionPolicy) : Prop where
  override : ∀ text ∈ policy.override, Template.hasReference text = false
  fixed : ∀ text, policy.suffix = .fixed text → Template.hasReference text = false
  incremental : ∀ label, policy.suffix = .incremental label → Template.hasReference label = false

variable {policy : VersionPolicy}

theorem concrete_settleSnapshot {v : Version} (hv : v.Concrete) :
    (policy.settleSnapshot v).Concrete := by
  rw [settleSnapshot]
  split
  · exact hv
  · exact hv.setSnapshot

theorem concrete_raiseBuild {v : Version} (hv : v.Concrete) (n : Nat) :
    (raiseBuild v n).Concrete := by
  rw [raiseBuild]
  split
  · exact hv.setBuild n
  · exact hv

/-- A rebuilt version has no references if neither the present version nor the policy has any. Under
an override the present version does not count. -/
theorem Concrete.rebuild (h : policy.Concrete) {present : String}
    (hpresent : policy.override = none → Template.hasReference present = false)
    (published : List String) : (policy.rebuild present published).Concrete := by
  have hstart : Template.hasReference (policy.start present) = false := by
    rw [start]
    cases hoverride : policy.override with
    | none => exact hpresent hoverride
    | some text => exact h.override text hoverride
  have hparsed := Version.Concrete.parse hstart
  rw [VersionPolicy.rebuild]
  dsimp only
  split
  · exact hparsed
  · rename_i text hsuffix
    have htext := Template.hasReference_eq_false_iff.mp (h.fixed text hsuffix)
    exact concrete_settleSnapshot (hparsed.appendSuffix htext)
  · rename_i label hsuffix
    have hlabel := Template.hasReference_eq_false_iff.mp (h.incremental label hsuffix)
    exact concrete_settleSnapshot (concrete_raiseBuild (hparsed.appendSuffix hlabel) _)

end VersionPolicy

namespace VersionChanges

/-- Every computed change is that of a rebuilt version, reconciled with some texts. -/
theorem exists_of_get?_ofPolicy {r : Reactor} {policy : VersionPolicy} {osgi : Bool}
    {candidates : Candidates} {coordinate : Coordinate} {new : String}
    (h : (ofPolicy r policy osgi candidates).get? coordinate = some new) :
    ∃ id < r.size, ∃ present texts, r.version? id = some present ∧
      coordinate = (r.artifact id).at present ∧
      new =
        (reconcile texts (policy.calculate (r.artifact id) present candidates)).renderAs osgi := by
  have hfold : ∀ (items : List (Coordinate × Version)) (state : KeySet String × VersionChanges),
      (items.foldl (settle osgi) state).2.get? coordinate = some new →
      state.2.get? coordinate = some new ∨ ∃ item ∈ items, ∃ texts,
        coordinate = item.1 ∧ new = (reconcile texts item.2).renderAs osgi := by
    intro items
    induction items with
    | nil => exact fun _ h => .inl h
    | cons item later ih =>
      intro state hget
      rcases ih (settle osgi state item) hget with hsettled | ⟨item', hitem', hchange⟩
      · simp only [settle, enter] at hsettled
        split at hsettled
        · exact .inl hsettled
        · rw [Table.get?_insert] at hsettled
          split at hsettled
          · rename_i heq
            exact .inr ⟨item, List.mem_cons_self .., state.1, heq,
              (Option.some.inj hsettled).symm⟩
          · exact .inl hsettled
      · exact .inr ⟨item', List.mem_cons_of_mem _ hitem', hchange⟩
  rcases hfold _ _ h with hnone | ⟨item, hitem, texts, hcoordinate, hnew⟩
  · exact absurd hnone nofun
  · obtain ⟨id, hid, hrebuilt⟩ := List.mem_filterMap.mp hitem
    obtain ⟨present, hpresent, rfl⟩ := Option.map_eq_some_iff.mp hrebuilt
    exact ⟨id, List.mem_range.mp hid, present, texts, hpresent, hcoordinate, hnew⟩

/-- A new version has a reference only if it replaces a version that has one. -/
theorem unresolved_of_ofPolicy {r : Reactor} {policy : VersionPolicy} {osgi : Bool}
    {candidates : Candidates} {coordinate : Coordinate} {new : String} (hpolicy : policy.Concrete)
    (h : (ofPolicy r policy osgi candidates).get? coordinate = some new)
    (hnew : Template.hasReference new = true) :
    policy.override = none ∧ Template.hasReference coordinate.version = true := by
  obtain ⟨id, _, present, texts, _, rfl, rfl⟩ := exists_of_get?_ofPolicy h
  by_contra hresolved
  have hpresent : policy.override = none → Template.hasReference present = false := by
    intro hnone
    rw [Bool.eq_false_iff]
    exact fun hreference => hresolved ⟨hnone, hreference⟩
  have hrebuilt := hpolicy.rebuild hpresent (candidates.versions (r.artifact id))
  have hreconciled :
      (reconcile texts (policy.calculate (r.artifact id) present candidates)).Concrete := by
    rw [reconcile]
    split
    · exact hrebuilt.setBuild _
    · exact hrebuilt
  rw [hreconciled.hasReference_renderAs] at hnew
  exact absurd hnew nofun

/-! ## Cycles -/

/-- What a carrier writes can lead further: a property is set to a text with a reference, or a
version to one that refers to a name which stands for something. -/
inductive Carrier.LeadsOn (r : Reactor) (x : Carrier) : Prop where
  | property {slot : PropertySlot} (slot : slot ∈ x.slots r)
      (reference : Template.hasReference x.edit.new = true)
  | part {name : String} (inPlace : x.inPlace = true)
      (reference : name ∈ Template.references x.edit.new)
      (known : r.lookup x.edit.module name ≠ none)

/-- A carrier can lead on only with a reference in its new text. -/
theorem Carrier.LeadsOn.hasReference {r : Reactor} {x : Carrier} (h : x.LeadsOn r) :
    Template.hasReference x.edit.new = true := by
  cases h with
  | property _ hreference => exact hreference
  | part _ hreference _ =>
    by_contra hnone
    rw [Template.references_of_not_hasReference (Bool.eq_false_iff.mpr hnone)] at hreference
    exact absurd hreference List.not_mem_nil

/-- No cycle arises if no carrier leads on: a path ends at a written place, or at a name that stands
for nothing. -/
theorem acyclic_apply {changes : VersionChanges} {r : Reactor} {report : Report} (hr : r.Acyclic)
    (hends : ∀ x ∈ carriers changes r, ¬ x.LeadsOn r) :
    (changes.apply r report).reactor.Acyclic := by
  refine hr.of_steps (apply_written changes r report).links.size ?_
  rintro id _ name next ⟨value, hlookup, hnext⟩
  rcases lookup_apply changes r report id name with hsame | ⟨x, hx, hanswers, _, hnew⟩
  · exact .inl ⟨value, hsame ▸ hlookup, hnext⟩
  · obtain rfl : value = x.edit.new := Option.some.inj (hlookup.symm.trans hnew)
    right
    cases hanswers with
    | part hplace hmodule _ =>
      -- the new version refers only to names that stand for nothing, and they still do
      rintro last ⟨value', hvalue', _⟩
      have hnone : r.lookup id next = none := by
        by_contra hknown
        exact hends x hx (.part hplace hnext (hmodule.symm ▸ hknown))
      exact absurd ((lookup_apply_eq_none hnone).symm.trans hvalue') nofun
    | property _ hslot =>
      by_cases hreference : Template.hasReference x.edit.new = true
      · exact absurd (.property hslot hreference) (hends x hx)
      · rw [Template.references_of_not_hasReference (Bool.eq_false_iff.mpr hreference)] at hnext
        exact absurd hnext List.not_mem_nil

/-- Re-versioning creates no cycle, unless a version that could not be resolved gets a new one with
the same reference and this is written where it can lead further. -/
theorem reversioned_acyclic {r : Reactor} {policy : VersionPolicy} (osgi : Bool)
    (candidates : Candidates) (report : Report) (hpolicy : policy.Concrete) (hr : r.Acyclic) :
    ((ofPolicy r policy osgi candidates).apply r report).reactor.Acyclic ∨
      ∃ x ∈ carriers (ofPolicy r policy osgi candidates) r, x.LeadsOn r ∧
        policy.override = none ∧ ∃ id < r.size, ∃ present,
          r.version? id = some present ∧ Template.hasReference present = true ∧
          (ofPolicy r policy osgi candidates).get? ((r.artifact id).at present) =
            some x.edit.new := by
  by_cases hends : ∀ x ∈ carriers (ofPolicy r policy osgi candidates) r, ¬ x.LeadsOn r
  · exact .inl (acyclic_apply hr hends)
  · push Not at hends
    obtain ⟨x, hx, hleads⟩ := hends
    obtain ⟨coordinate, hchanged⟩ := exists_coordinate hx
    obtain ⟨hoverride, hreference⟩ := unresolved_of_ofPolicy hpolicy hchanged hleads.hasReference
    obtain ⟨id, hid, present, _, hpresent, rfl, _⟩ := exists_of_get?_ofPolicy hchanged
    exact .inr ⟨x, hx, hleads, hoverride, id, hid, present, hpresent, hreference, hchanged⟩

def redhatPolicy : VersionPolicy where
  suffix := .fixed "redhat-1"

theorem concrete_redhatPolicy : redhatPolicy.Concrete where
  override := nofun
  fixed := by
    intro text hsuffix
    cases hsuffix
    decide
  incremental := nofun

/-- A module whose version is a property, and one that declares the property and may be its parent.
-/
def revisionAndBase (inSight : Bool) : Reactor where
  modules := [
    { group := some "org.app", name := "app", version := some "$\x7brevision\x7d"
      parent :=
        if inSight then some { group := "org.app", name := "base", version := "2.0" } else none
      parentModule := if inSight then some 1 else none },
    { group := some "org.app", name := "base", version := some "2.0"
      body := { properties := Table.ofList [("revision", "1.0")] } }]
  forest := by cases inSight <;> exact Reactor.forest_of_checks (by simp) (by decide) (by decide)

theorem acyclic_revisionAndBase (inSight : Bool) : (revisionAndBase inSight).Acyclic := by
  apply Reactor.acyclic_of_values
  · cases inSight <;> decide
  · intro id hid part
    have hlt : id < 2 := hid
    obtain rfl | rfl : id = 0 ∨ id = 1 := by omega
    all_goals cases inSight <;> cases part <;> decide

def suffixed (inSight : Bool) : Progress :=
  (ofPolicy (revisionAndBase inSight) redhatPolicy false ∅).apply (revisionAndBase inSight) {}

/-- Where the property is in sight, its value is replaced. -/
theorem reversioned_acyclic_inSight : (suffixed true).reactor.Acyclic := by
  refine (reversioned_acyclic false ∅ {} concrete_redhatPolicy
    (acyclic_revisionAndBase true)).resolve_right ?_
  rintro ⟨_, _, _, _, id, hid, present, hpresent, hreference, _⟩
  have hlt : id < 2 := hid
  have hresolved : ∀ id < 2, ∀ present ∈ (revisionAndBase true).version? id,
      Template.hasReference present = false := by
    decide +kernel
  rw [hresolved id hlt present hpresent] at hreference
  exact absurd hreference nofun

/-- Where it is not, its value is replaced all the same, by a text that refers to the property. -/
theorem reversioning_closes_cycle :
    (revisionAndBase false).Acyclic ∧ redhatPolicy.Concrete ∧
      ¬ ((ofPolicy (revisionAndBase false) redhatPolicy false ∅).apply
        (revisionAndBase false) {}).reactor.Acyclic := by
  refine ⟨acyclic_revisionAndBase false, concrete_redhatPolicy, fun hacyclic => ?_⟩
  have hlookup : (suffixed false).reactor.lookup 1 "revision" =
      some "$\x7brevision\x7d-redhat-1" := by
    decide +kernel
  refine hacyclic 1 (by decide +kernel) "revision" (.single ⟨_, hlookup, ?_⟩)
  decide +kernel

end VersionChanges

end BuildAlign
