import BuildAlign.Proofs.Alignment.CheckedWrites
import BuildAlign.Proofs.Alignment.Outcome
import BuildAlign.Proofs.Override.Entries

/-!
The strict check over a whole run. Every override is checked against the one declaration that it
matches, but a value that is written to a property is seen by every declaration that refers to it.
In a simple reactor this is safe: a checked reference leads to a value without references, every
declaration that is moved along resolves to that same value, and the strict check lets the new one
pass.
-/

namespace BuildAlign

def OverrideSources.Literal (s : OverrideSources) : Prop :=
  ∀ e ∈ s.bom.entries ++ s.rest.entries, Template.hasReference e.version = false

instance (s : OverrideSources) : Decidable s.Literal :=
  inferInstanceAs (Decidable (∀ e ∈ s.bom.entries ++ s.rest.entries, _))

/-- The strict check of a simple reactor by a label, against literal versions, without explicit
rules. -/
structure DependencyAlignment.ChecksSimple (a : DependencyAlignment) (r : Reactor) : Prop where
  simple : r.Simple
  literal : a.sources.Literal
  enabled : a.strict.enabled = true
  label : ∀ x ∈ a.strict.suffix, x.IsLabel = true
  rules : a.rules.isEmpty = true

namespace DependencyAlignment

variable {a : DependencyAlignment} {r : Reactor} {p p' : Progress}

/-- A candidate for a declaration has no reference. -/
theorem not_hasReference_of_candidate (hsources : a.sources.Literal) {id : Nat}
    {artifact : Artifact} {version : String}
    (h : version ∈ candidateVersions ((a.visit r id).overrides.entriesOf artifact)) :
    Template.hasReference version = false := by
  obtain ⟨e, he, hversion⟩ := mem_candidateVersions h
  have hoverrides : e ∈ (a.visit r id).overrides.entries := (List.mem_filter.mp he).1
  have hmerged : e ∈ (a.sources.merge a.config.precedence).entries :=
    OverrideMap.mem_entries_retain (OverrideMap.mem_entries_retain hoverrides)
  have hliteral := hsources e (List.mem_append.mpr (OverrideSources.mem_entries_merge hmerged))
  obtain ⟨rfl, _⟩ := Text.nonBlank?_eq_some hversion
  refine Template.hasReference_of_infix ?_ hliteral
  rw [Text.trimmed, String.toList_ofList]
  exact Text.trim_infix _

/-- A declaration is moved only to a literal version that may replace the one it resolves to. -/
theorem ChecksSimple.moves (h : a.ChecksSimple r) {id : Nat} {d : Declaration} {old target : String}
    {explicit : Bool} (hold : IsSimple old) (hmoves : a.Moves r id d old target explicit) :
    Template.hasReference target = false ∧ a.strict.check (r.endValue id old) target = true := by
  obtain ⟨_, r', hframe, hmatched⟩ := hmoves.matched h.rules
  have hresolve : r'.resolve id old = r.endValue id old := by
    rw [Reactor.resolve_eq_endValue (h.simple.simpleProperties.sameFrame hframe) hold,
      hframe.endValue]
  have hchosen := hmatched.chosen
  rw [StrictPolicy.choose?, evaluator, h.enabled, if_pos rfl, Site.of, hresolve] at hchosen
  exact ⟨not_hasReference_of_candidate h.literal (List.mem_of_find?_eq_some hchosen),
    List.find?_some hchosen⟩

/-- Every demanded value replaces one that may be replaced by it. A declaration that leads to no
value, or to another reference, passes no check. -/
theorem ChecksSimple.checked (h : a.ChecksSimple r) {ledger : PropertyLedger}
    (htraced : ledger.Traced r (Demanded a r)) : ledger.Checked a.strict r := by
  intro owner scope new hw
  cases htraced.demanded owner scope new hw with
  | @of id d old name explicit hinside hdeclared hversion hproperty hlives hmoves =>
    obtain ⟨hliteral, hcheck⟩ := h.moves (h.simple.version hdeclared hversion) hmoves
    obtain ⟨rfl, _⟩ := propertyOf?_eq_some hproperty
    rw [Reactor.endValue, hproperty, Option.bind_some] at hcheck
    rw [PropertyLedger.ownerOf] at hlives
    cases hlocate : r.locate? id name with
    | none =>
      rw [hlocate, Option.map_none, Option.getD_none,
        StrictPolicy.check_reference h.label name hliteral] at hcheck
      cases hcheck
    | some place =>
      rw [hlocate] at hcheck hlives
      obtain ⟨_, _, hown⟩ := Reactor.nearestPlace?_self (Reactor.nearestPlace?_of_locate? hlocate)
      subst hlives
      refine ⟨_, _, hown, ?_, hliteral, hcheck⟩
      cases hvalue : propertyOf? place.value with
      | none => exact (h.simple.simpleProperties _ _ _ _ hown).literal hvalue
      | some next =>
        rw [Option.map_some, Option.getD_some, (propertyOf?_eq_some hvalue).1,
          StrictPolicy.check_reference h.label next hliteral] at hcheck
        cases hcheck

/-- The reactor after a run, of which a ledger of checked values is all that is new for look-ups. -/
theorem ChecksSimple.exists_flush (h : a.ChecksSimple p.reactor) (hran : Ran a p p') :
    ∃ (ledger : PropertyLedger) (q : Progress), p.reactor.SameFrame q.reactor ∧
      p'.reactor = (ledger.flush q).reactor ∧ PropertyLedger.Sound q.reactor ledger ∧
      ledger.Checked a.strict q.reactor := by
  obtain ⟨ledger, q, htraced, hframe, hflush⟩ := hran.exists_ledger
  have hchecked := h.checked htraced
  refine ⟨ledger, q, hframe, hflush, ⟨htraced.toFits.sameFrame hframe, ?_⟩, ?_⟩
  · intro owner scope new hw
    obtain ⟨_, _, _, _, hnew, _⟩ := hchecked owner scope new hw
    exact hnew
  · intro owner scope new hw
    obtain ⟨found, value, hown, hrest⟩ := hchecked owner scope new hw
    exact ⟨found, value, ((hframe.modules owner.module).properties owner.name).trans hown, hrest⟩

/-- A text of a declaration resolves to the same version after the run, or to an accepted one. -/
theorem ChecksSimple.resolve (h : a.ChecksSimple p.reactor) (hran : Ran a p p') {id : Nat}
    {raw : String} (hraw : IsSimple raw) :
    p'.reactor.resolve id raw = p.reactor.resolve id raw ∨
      a.strict.check (p.reactor.resolve id raw) (p'.reactor.resolve id raw) = true := by
  obtain ⟨ledger, q, hframe, hflush, hsound, hchecked⟩ := h.exists_flush hran
  have hsimple := h.simple.simpleProperties
  have hafter := PropertyLedger.simpleProperties_flush hsound (hsimple.sameFrame hframe)
  rw [hflush, Reactor.resolve_eq_endValue hafter hraw, Reactor.resolve_eq_endValue hsimple hraw,
    ← hframe.endValue]
  exact PropertyLedger.endValue_flush hsound hchecked id raw

/-- Every declared version resolves to what it was before a strictly checked run, or to a version
that the check accepts in its place, whether or not the declaration was checked itself. The
declaration is found behind the managed dependencies that were added. -/
theorem resolved_version_accepted (h : a.ChecksSimple p.reactor) (hrun : a.run p = .ok p')
    {id : Nat} {d : Declaration} {old : String} (hd : d ∈ (p.reactor.module id).declarations)
    (hversion : d.version = some old) :
    let added := (p'.reactor.module id).declarations.length -
      (p.reactor.module id).declarations.length
    ∃ new, { d.behind added with version := some new } ∈ (p'.reactor.module id).declarations ∧
      (p'.reactor.resolve id new = p.reactor.resolve id old ∨
        a.strict.check (p.reactor.resolve id old) (p'.reactor.resolve id new) = true) := by
  intro added
  have hran : Ran a p p' := by
    have := run_spec a p
    rwa [hrun] at this
  obtain ⟨f, managed, hdeclarations, hrealigned⟩ := hran.declarations id
  have hadded : added = managed.length := by
    simp only [added, hdeclarations, List.length_append, List.length_map,
      Module.listDependencies, List.length_mapIdx]
    omega
  have hmem : (f d).behind added ∈ (p'.reactor.module id).declarations := by
    rw [hdeclarations, hadded]
    exact List.mem_append_right _ (List.mem_map_of_mem (List.mem_map_of_mem hd))
  have hbecomes := hrealigned d hd
  generalize f d = d' at hmem hbecomes
  have hold : IsSimple old := h.simple.version hd hversion
  cases hbecomes with
  | kept =>
    refine ⟨old, ?_, h.resolve hran hold⟩
    rwa [← hversion]
  | moved hversion' hliteral hmoves =>
    rename_i old' target explicit
    obtain rfl : old' = old := Option.some.inj (hversion'.symm.trans hversion)
    obtain ⟨htarget, hcheck⟩ := h.moves hold hmoves
    have hplain := hold.literal hliteral
    refine ⟨target, ?_, .inr ?_⟩
    · rwa [Evaluator.literalText, hplain] at hmem
    · have hbefore : p.reactor.resolve id old' = p.reactor.endValue id old' :=
        Reactor.resolve_eq_endValue h.simple.simpleProperties hold
      have hafter : p'.reactor.resolve id target = target :=
        p'.reactor.resolve_of_not_hasReference id htarget
      rwa [hafter, hbefore]

/-! ## Declarations that are moved along -/

/-- Two dependencies of one version: one refers to the property `x`, the other to an alias of it. -/
def sharedProperty : Progress where
  reactor := {
    modules := [
      { group := some "org.a", name := "root", version := some "1",
        body := {
          properties := Table.ofList [("x", "1.0"), ("y", "$\x7bx\x7d")]
          dependencies := [
            { group := "org.b", name := "lib", version := some "$\x7by\x7d" },
            { group := "org.b", name := "other", version := some "$\x7bx\x7d" }] } }]
    forest := Reactor.forest_of_checks (by simp) (by decide) (by decide) }
  report := {}

def rebuiltLibrary : DependencyAlignment where
  config := { precedence := .bom }
  strict := StrictPolicy.ofLabel "redhat" true
  sources := {
    bom := .ofCoordinates .bom [Artifact.at { group := "org.b", name := "lib" } "1.0.redhat-1"] }
  rules := {}

def otherDependency : Declaration where
  address := { scope := .main, collection := .dependencies, index := 1 }
  group := "org.b"
  name := "other"
  version := some "$\x7bx\x7d"
  kind := defaultKind
  classifier := none

theorem checksSimple_rebuiltLibrary : rebuiltLibrary.ChecksSimple sharedProperty.reactor where
  simple := ⟨by decide +kernel, by decide +kernel⟩
  literal := by decide +kernel
  enabled := rfl
  label := by decide +kernel
  rules := rfl

/-- The other dependency is moved to 1.0.redhat-1 too, and the check accepts that. -/
theorem resolved_otherDependency :
    ∃ p', rebuiltLibrary.run sharedProperty = .ok p' ∧
      p'.reactor.resolve 0 "$\x7bx\x7d" = "1.0.redhat-1" ∧
      ∃ new, { otherDependency.behind ((p'.reactor.module 0).declarations.length -
          (sharedProperty.reactor.module 0).declarations.length) with version := some new } ∈
            (p'.reactor.module 0).declarations ∧
        (p'.reactor.resolve 0 new = sharedProperty.reactor.resolve 0 "$\x7bx\x7d" ∨
          rebuiltLibrary.strict.check (sharedProperty.reactor.resolve 0 "$\x7bx\x7d")
            (p'.reactor.resolve 0 new) = true) := by
  have hrun : rebuiltLibrary.run sharedProperty =
      .ok ((rebuiltLibrary.run sharedProperty).toOption.getD sharedProperty) := by
    decide +kernel
  have hd : otherDependency ∈ (sharedProperty.reactor.module 0).declarations := by
    decide +kernel
  exact ⟨_, hrun, by decide +kernel,
    resolved_version_accepted checksSimple_rebuiltLibrary hrun hd rfl⟩

end DependencyAlignment

end BuildAlign
