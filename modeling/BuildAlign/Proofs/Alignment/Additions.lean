import BuildAlign.Proofs.Alignment.Injections
import BuildAlign.Proofs.Alignment.Result
import BuildAlign.Proofs.Module.Outline

/-!
Which managed dependencies are added to the roots. Of all entries of the merged sources those are
added that are for no module of the reactor, are not excluded in the root, have a version, and are
for an artifact that the root does not manage yet. They come in the order of the entries, in front
of the managed dependencies of before; of entries that differ only in version the first one is
taken. Nothing else is added anywhere.
-/

namespace BuildAlign

/-! ## The entries that are added -/

namespace Reactor

def Manages (r : Reactor) (id : Nat) (artifact : Artifact) : Prop :=
  ∃ d ∈ (r.module id).body.managedDependencies,
    ({ group := r.resolve id d.group, name := r.resolve id d.name } : Artifact) = artifact

instance (r : Reactor) (id : Nat) (artifact : Artifact) : Decidable (r.Manages id artifact) :=
  inferInstanceAs (Decidable (∃ d ∈ _, _))

def withParent (r : Reactor) (id : Nat) (parent : Option Parent) : Reactor :=
  r.modify id (fun m => { m with parent }) fun _ => rfl

theorem manages_congr {r r' : Reactor} {id : Nat} (hview : r.SameView id r')
    (hbody : (r'.module id).body = (r.module id).body) (artifact : Artifact) :
    r'.Manages id artifact ↔ r.Manages id artifact := by
  simp only [Manages, hbody, hview.resolve]

end Reactor

/-- The managed dependencies of the main body among all declarations. -/
theorem Module.filter_managed (m : Module) :
    (m.declarations.filter fun d =>
        d.address.scope = .main ∧ d.address.collection = .managedDependencies) =
      listDependencies .main .managedDependencies m.body.managedDependencies := by
  rw [m.declarations_eq_managed, List.filter_append, List.filter_eq_self.mpr,
    List.filter_eq_nil_iff.mpr, List.append_nil]
  · intro d hd hmanaged
    exact not_managed_of_mem_otherDeclarations hd (of_decide_eq_true hmanaged)
  · exact fun d hd => decide_eq_true (address_of_mem_listDependencies hd)

namespace DependencyAlignment

open Reactor

/-- The artifacts that are kept of a module's managed dependencies are those that its main body
manages. -/
theorem contains_managedArtifacts (r : Reactor) (id : Nat) (artifact : Artifact) :
    (managedArtifacts r id).contains artifact = true ↔ r.Manages id artifact := by
  rw [managedArtifacts, KeySet.contains_ofList, Module.filter_managed, Module.listDependencies,
    List.mem_map]
  constructor
  · rintro ⟨_, hmem, heq⟩
    obtain ⟨i, hi, rfl⟩ := List.mem_mapIdx.mp hmem
    exact ⟨_, List.getElem_mem hi, heq⟩
  · rintro ⟨d, hd, heq⟩
    obtain ⟨i, hi, rfl⟩ := List.getElem_of_mem hd
    exact ⟨_, List.mem_mapIdx.mpr ⟨i, hi, rfl⟩, heq⟩

variable {a : DependencyAlignment} {r : Reactor} {id : Nat}

/-- An entry that is to be added to a root with the declared parent: it is for no module, it is not
excluded in the root, it has a version, and the root does not manage its artifact. -/
structure Addable (a : DependencyAlignment) (r : Reactor) (id : Nat) (parent : Option Parent)
    (e : OverrideEntry) : Prop where
  foreign : ∀ module < r.size, r.artifact module ≠ e.artifact
  included : (a.rules.inModule (r.artifact id)).excludes e.artifact = false
  versioned : Text.isBlank e.version = false
  unmanaged : ¬ (r.withParent id parent).Manages id e.artifact

instance (a : DependencyAlignment) (r : Reactor) (id : Nat) (parent : Option Parent) :
    DecidablePred (Addable a r id parent) := fun e =>
  decidable_of_iff
    ((∀ module < r.size, r.artifact module ≠ e.artifact) ∧
      (a.rules.inModule (r.artifact id)).excludes e.artifact = false ∧
      Text.isBlank e.version = false ∧ ¬ (r.withParent id parent).Manages id e.artifact)
    ⟨fun h => ⟨h.1, h.2.1, h.2.2.1, h.2.2.2⟩,
      fun h => ⟨h.foreign, h.included, h.versioned, h.unmanaged⟩⟩

/-- The entries that are to be added to a root, in their order. -/
def additions (a : DependencyAlignment) (r : Reactor) (id : Nat) (parent : Option Parent) :
    List OverrideEntry :=
  (a.sources.merge a.config.precedence).entries.filter (Addable a r id parent)

theorem body_asVisited (hid : id < r.size) :
    ((a.asVisited r id).module id).body = (r.module id).body := by
  rcases a.module_asVisited_cases hid with hsame | ⟨new, hmoved⟩
  · rw [hsame]
  · rw [hmoved]
    rfl

/-- A visit sees the module with the declared parent that it leaves. -/
theorem sameView_asVisited (hid : id < r.size) :
    (a.asVisited r id).SameView id (r.withParent id ((a.asVisited r id).module id).parent) := by
  have hvisited := a.sameFrame_asVisited r hid
  have hmodule := r.module_modify hid
    (fun m => { m with parent := ((a.asVisited r id).module id).parent }) fun _ => rfl
  refine ⟨hvisited.symm.trans (r.sameFrame_modify hid _ _ ⟨⟨rfl, rfl, rfl, ?_⟩, rfl, fun _ => rfl⟩),
    ?_⟩
  · exact (hvisited.modules id).parent
  · rw [withParent, hmodule, if_pos rfl]

theorem manages_withParent (hid : id < r.size) (artifact : Artifact) :
    (r.withParent id ((a.asVisited r id).module id).parent).Manages id artifact ↔
      (a.asVisited r id).Manages id artifact := by
  refine manages_congr (sameView_asVisited hid) ?_ artifact
  rw [withParent, r.module_modify hid, if_pos rfl, body_asVisited hid]

/-- The tests of an entry while the module is visited. -/
theorem addable_iff (hid : id < r.size) (e : OverrideEntry) :
    Addable a r id ((a.asVisited r id).module id).parent e ↔
      r.artifacts.contains e.artifact = false ∧
      (a.rules.inModule (r.artifact id)).excludes e.artifact = false ∧
      (managedArtifacts (a.asVisited r id) id).contains e.artifact = false ∧
      Text.isBlank e.version = false := by
  have hforeign : r.artifacts.contains e.artifact = false ↔
      ∀ module < r.size, r.artifact module ≠ e.artifact := by
    rw [← Bool.not_eq_true, artifacts, KeySet.contains_ofList]
    simp [ids]
  have hunmanaged : (managedArtifacts (a.asVisited r id) id).contains e.artifact = false ↔
      ¬ (r.withParent id ((a.asVisited r id).module id).parent).Manages id e.artifact := by
    rw [← Bool.not_eq_true, contains_managedArtifacts, manages_withParent hid]
  rw [hforeign, hunmanaged]
  exact ⟨fun h => ⟨h.foreign, h.included, h.unmanaged, h.versioned⟩,
    fun h => ⟨h.1, h.2.1, h.2.2.2, h.2.2.1⟩⟩

/-- The dependencies that a run adds to a root, told by the reactor of before; of several that
differ only in version the first one. -/
theorem added_eq (hid : id < r.size) :
    a.added r id =
      if a.injects && r.isRoot id then
        firsts ((a.additions r id ((a.asVisited r id).module id).parent).map OverrideEntry.addition)
      else [] := by
  rw [added]
  split
  · refine congrArg firsts ?_
    rw [additions, visit, ExplicitRules.applyExclusions, overridesFor, OverrideMap.without]
    simp only [OverrideMap.retain, ← List.filterMap_eq_map, List.filterMap_filter]
    refine List.filterMap_congr fun e _ => ?_
    simp only [addable_iff hid, injection?_eq]
    cases Table.contains r.artifacts e.artifact <;>
      cases (a.rules.inModule (r.artifact id)).excludes e.artifact <;>
      cases Table.contains (managedArtifacts (a.asVisited r id) id) e.artifact <;>
      cases Text.isBlank e.version <;> simp
  · rfl

end DependencyAlignment

/-! ## What is left of a module -/

theorem PropertyLedger.withoutProperties_flush (ledger : PropertyLedger) (p : Progress) (id : Nat) :
    ((ledger.flush p).reactor.module id).withoutProperties =
      (p.reactor.module id).withoutProperties := by
  apply flush_induction (P := fun m =>
    m.withoutProperties = (p.reactor.module id).withoutProperties)
  · exact fun m scope name value h => (m.withoutProperties_setProperty scope name value).trans h
  · rfl

namespace DependencyAlignment

variable {a : DependencyAlignment} {r : Reactor} {id : Nat}

/-- The declarations of a module that are aligned are only given other versions. -/
theorem outline_alignedDeclared (hid : id < r.size) :
    (a.alignedDeclared r id).outline = (r.module id).outline := by
  apply alignedDeclared_induction (P := fun m => m.outline = (r.module id).outline)
  · exact fun m address version hm => (m.outline_setSlot address version).trans hm
  · rcases a.module_asVisited_cases hid with hsame | ⟨new, hmoved⟩
    · rw [hsame]
    · rw [hmoved]
      exact (r.module id).outline_withParentVersion new

/-- What a run leaves of the managed dependencies of a module: the former ones, of which at most the
versions are others, behind those that are added. These are, for a root, the first entry of each
identity that is to be added, with its trimmed version; to other modules nothing is added. Apart
from that no module has other declarations than before. -/
theorem additions_exact {p p' : Progress} (hrun : a.run p = .ok p')
    (htransitive : a.config.overrideTransitive = true) (hbom : a.sources.bom.isEmpty = false)
    (hid : id < p.reactor.size) :
    let m := p.reactor.module id
    let m' := p'.reactor.module id
    let entries := a.additions p.reactor id m'.parent
    ∃ added kept,
      m'.body.managedDependencies = added ++ kept ∧
      kept.map Dependency.unversioned = m.body.managedDependencies.map Dependency.unversioned ∧
      m'.outline = m.outline.manage (added.map Dependency.unversioned) ∧
      (p.reactor.isRoot id = false → added = []) ∧
      (p.reactor.isRoot id = true →
        added.map Dependency.identity = (entries.map OverrideEntry.identity).eraseDups ∧
        ∀ d ∈ added, ∃ e, entries.find? (·.identity = d.identity) = some e ∧ d = e.addition) := by
  intro m m' entries
  have hleft := left_of_run hrun
  obtain ⟨q, -, hmodules, hq⟩ := hleft.written
  have hwritten := (a.ledgerOf p.reactor).withoutProperties_flush q id
  rw [← hq, hmodules id hid] at hwritten
  have hkept := outline_alignedDeclared (a := a) hid
  refine ⟨a.added p.reactor id, (a.alignedDeclared p.reactor id).body.managedDependencies,
    ?_, ?_, ?_, ?_, ?_⟩
  · exact congrArg (fun m => m.body.managedDependencies) hwritten
  · exact congrArg (fun m => m.body.managedDependencies) hkept
  · rw [← hkept, ← Module.outline_manage, ← m'.outline_withoutProperties, hwritten,
      Module.outline_withoutProperties]
    rfl
  · intro hinner
    rw [added, hinner, Bool.and_false]
    rfl
  · intro hroot
    have hinjects : a.injects = true := by
      rw [injects, htransitive, hbom]
      rfl
    have hadded : a.added p.reactor id = firsts (entries.map OverrideEntry.addition) := by
      rw [added_eq hid, hinjects, hroot, ← hleft.parent hid]
      rfl
    have hidentity : Dependency.identity ∘ OverrideEntry.addition = OverrideEntry.identity := rfl
    rw [hadded]
    refine ⟨?_, fun d hd => ?_⟩
    · rw [identity_firsts, List.map_map, hidentity]
    · have hfirst := find?_of_mem_firsts hd
      rw [List.find?_map] at hfirst
      obtain ⟨e, he, rfl⟩ := Option.map_eq_some_iff.mp hfirst
      exact ⟨e, he, rfl⟩

/-! ## Entries that repeat an artifact -/

/-- The root manages a library, and its child is a module too. -/
def managingRoot : Progress where
  reactor := {
    modules := [
      { group := some "org.app", name := "app", version := some "1"
        body := {
          managedDependencies := [
            { group := "org.b", name := "lib", version := some "1.0", scope := some "test" }] } },
      { group := some "org.app", name := "child", parentModule := some 0 }]
    forest := Reactor.forest_of_checks (by simp) (by decide) (by decide) }
  report := {}

/-- Two versions of one artifact, its tests, and entries for which nothing is added. -/
def repeatedEntries : DependencyAlignment where
  config := { precedence := .bom, overrideTransitive := true }
  strict := {}
  sources := {
    bom := .ofCoordinates .bom [
      Artifact.at { group := "org.b", name := "core" } " 3.0 ",
      Artifact.at { group := "org.b", name := "lib" } "2.0",
      Artifact.at { group := "org.b", name := "core" } "3.1",
      ((Artifact.at { group := "org.b", name := "core" } "3.0").withKind "test-jar").withClassifier
        (some "tests"),
      Artifact.at { group := "org.b", name := "tool" } "1.0",
      Artifact.at { group := "org.app", name := "child" } "9"] }
  rules := {
    rules := [
      { target := .artifact { group := "org.b", name := "tool" }, module := none
        verdict := .exclude }] }

/-- The first version and the tests are added to the root, and nothing to its child. -/
theorem additions_repeatedEntries :
    ∃ p', repeatedEntries.run managingRoot = .ok p' ∧
      (∃ added kept, (p'.reactor.module 0).body.managedDependencies = added ++ kept ∧
        added.map Dependency.identity =
          [({ group := "org.b", name := "core" }, "jar", none),
            ({ group := "org.b", name := "core" }, "test-jar", some "tests")] ∧
        kept.map Dependency.unversioned =
          [{ group := "org.b", name := "lib", scope := some "test" }]) ∧
      (p'.reactor.module 1).outline = (managingRoot.reactor.module 1).outline := by
  let p' := (repeatedEntries.run managingRoot).toOption.getD managingRoot
  have hrun : repeatedEntries.run managingRoot = .ok p' := by
    decide +kernel
  refine ⟨p', hrun, ?_, ?_⟩
  · obtain ⟨added, kept, hmanaged, hkept, -, -, hroot⟩ :=
      additions_exact hrun rfl (by decide +kernel) (show 0 < managingRoot.reactor.size by decide)
    obtain ⟨hidentity, -⟩ := hroot (by decide)
    exact ⟨added, kept, hmanaged, hidentity.trans (by decide +kernel), hkept⟩
  · obtain ⟨added, kept, -, -, houtline, hinner, -⟩ :=
      additions_exact hrun rfl (by decide +kernel) (show 1 < managingRoot.reactor.size by decide)
    rw [houtline, hinner (by decide)]
    rfl

/-! ## A managed artifact that is named after the parent -/

/-- The name of a managed dependency holds the version of the declared parent. -/
def namedAfterParent : Progress where
  reactor := {
    modules := [
      { group := some "org.app", name := "app", version := some "1"
        parent := some { group := "org.corp", name := "corp-parent", version := "10" }
        body := {
          managedDependencies := [
            { group := "org.b", name := "lib-$\x7bproject.parent.version\x7d"
              version := some "1.0" }] } }]
    forest := Reactor.forest_of_checks (by simp) rfl rfl }
  report := {}

/-- The alignment of the parent, and of the artifact as it is named before and after that. -/
def movingParent : DependencyAlignment where
  config := { precedence := .bom, overrideTransitive := true }
  strict := {}
  sources := {
    bom := .ofCoordinates .bom [
      Artifact.at { group := "org.corp", name := "corp-parent" } "11",
      Artifact.at { group := "org.b", name := "lib-10" } "1.5",
      Artifact.at { group := "org.b", name := "lib-11" } "2.0"] }
  rules := {}

/-- What the alignment leaves of the module. -/
def movedParent : Progress :=
  (movingParent.run namedAfterParent).toOption.getD namedAfterParent

/-- The root managed the one artifact before the run and not the other. The one is added all the
same, and the other is not. -/
theorem added_though_managed_before :
    movingParent.run namedAfterParent = .ok movedParent ∧
      namedAfterParent.reactor.Manages 0 { group := "org.b", name := "lib-10" } ∧
      ¬ namedAfterParent.reactor.Manages 0 { group := "org.b", name := "lib-11" } ∧
      (movedParent.reactor.module 0).body.managedDependencies = [
        { group := "org.corp", name := "corp-parent", version := some "11" },
        { group := "org.b", name := "lib-10", version := some "1.5" },
        { group := "org.b", name := "lib-$\x7bproject.parent.version\x7d"
          version := some "2.0" }] ∧
      ¬ ∃ added kept,
        (movedParent.reactor.module 0).body.managedDependencies = added ++ kept ∧
        added.map Dependency.identity =
          ((movingParent.additions namedAfterParent.reactor 0
            (namedAfterParent.reactor.module 0).parent).map OverrideEntry.identity).eraseDups := by
  refine ⟨by decide +kernel, by decide +kernel, by decide +kernel, by decide +kernel, ?_⟩
  rintro ⟨added, kept, hmanaged, hidentity⟩
  have hbefore : ((movingParent.additions namedAfterParent.reactor 0
      (namedAfterParent.reactor.module 0).parent).map OverrideEntry.identity).eraseDups =
      [({ group := "org.corp", name := "corp-parent" }, "jar", none),
        ({ group := "org.b", name := "lib-11" }, "jar", none)] := by
    decide +kernel
  have hsecond : ((movedParent.reactor.module 0).body.managedDependencies.map
      Dependency.identity)[1]? = some ({ group := "org.b", name := "lib-11" }, "jar", none) := by
    rw [hmanaged, List.map_append, hidentity, hbefore]
    rfl
  exact absurd hsecond (by decide +kernel)

end DependencyAlignment

end BuildAlign
