import BuildAlign.Proofs.Alignment.Sourced

/-!
No version is invented. Every version text that a run writes is one of the sources for the artifact
concerned: that of the declaration, of the mapping, of the declared parent, or of the added
dependency.
-/

namespace BuildAlign.DependencyAlignment

/-- A declaration after a run. A text that has no reference is replaced by a sourced version. -/
inductive Retexted (a : DependencyAlignment) (r : Reactor) (id : Nat) (d : Declaration) :
    Declaration → Prop where
  | kept : Retexted a r id d d
  | written {old new : String} (version : d.version = some old)
      (sourced : Template.hasReference old = false →
        Sourced a r id ((a.asVisited r id).declaredArtifact id d) new) :
      Retexted a r id d { d with version := some new }

/-- Where the version texts of a module come from after a run. -/
structure Provenance (a : DependencyAlignment) (p : Progress) (id : Nat) (m : Module) : Prop where
  /-- Declarations, behind the added managed dependencies. -/
  declarations : ∃ (added : List Dependency) (f : Declaration → Declaration),
    m.declarations = Module.listDependencies .main .managedDependencies added ++
      ((p.reactor.module id).declarations.map f).map (Declaration.behind added.length) ∧
    (∀ d ∈ (p.reactor.module id).declarations, Retexted a p.reactor id d (f d)) ∧
    ∀ d ∈ added, ∃ new, d.version = some new ∧
      Sourced a p.reactor id { group := d.group, name := d.name } new
  /-- Properties, written by a mapping that the demands left. -/
  properties : ∀ scope name,
    m.property? scope name = (p.reactor.module id).property? scope name ∨
      ∃ s mapping other d, a.gather (a.begun p) = .ok s ∧
        s.ledger.get? ⟨id, name⟩ = some mapping ∧ scope = mapping.scope.getD .main ∧
        m.property? scope name = some mapping.new ∧
        Originates a p.reactor ⟨id, name⟩ mapping other d
  /-- The declared parent of a root. -/
  parent : m.parent = (p.reactor.module id).parent ∨
    ∃ parent new, p.reactor.isRoot id = true ∧ (p.reactor.module id).parent = some parent ∧
      m.parent = some { parent with version := new } ∧ Sourced a p.reactor id parent.artifact new

variable {a : DependencyAlignment} {r : Reactor} {id : Nat} {d : Declaration}

theorem realign_retexted : Retexted a r id d (a.realign r id d) := by
  have hasked := requestOf_asked a (a.visit r id) (a.asVisited r id) d
  rw [realign, request]
  generalize a.requestOf (a.visit r id) (a.asVisited r id) d = x at hasked
  cases hasked with
  | nothing | demand => exact .kept
  | @rewrite old target explicit hversion _ _ hcause =>
    refine .written hversion fun hold => ?_
    rw [a.evaluator.literalText_of_not_hasReference hold]
    exact sourced_of_cause hcause

/-- The mappings of a run are those of its ledger after all visits. -/
theorem gather_of_run {p p' : Progress} (hrun : a.run p = .ok p') {owner : PropertyOwner}
    {m : PropertyMapping} (hget : (a.ledgerOf p.reactor).get? owner = some m) :
    ∃ s, a.gather (a.begun p) = .ok s ∧ s.ledger.get? owner = some m := by
  rw [run_eq] at hrun
  split at hrun
  · rename_i hempty
    obtain ⟨hoverrides, hrules⟩ := Bool.and_eq_true_iff.mp hempty
    rw [ledgerOf_of_isEmpty hoverrides hrules] at hget
    cases hget
  · have hgather := a.gather_exact (a.begun p)
    cases hs : a.gather (a.begun p) with
    | error e =>
      rw [hs] at hrun
      cases hrun
    | ok s =>
      rw [hs] at hgather
      refine ⟨s, rfl, ?_⟩
      rwa [hgather.ledger, reactor_begun]

/-- Every version text that a run writes comes from where the rules of alignment say, in every
module. -/
theorem run_provenance {p p' : Progress} (hrun : a.run p = .ok p') :
    ∀ id ∈ p.reactor.ids, Provenance a p id (p'.reactor.module id) := by
  intro id hid
  have hid : id < p.reactor.size := List.mem_range.mp hid
  have hleft := left_of_run hrun
  constructor
  · exact ⟨a.added p.reactor id, a.realign p.reactor id, hleft.declarations hid,
      fun _ _ => realign_retexted, fun _ => sourced_of_mem_added⟩
  · intro scope name
    rcases hleft.property_cases hid scope name with hsame | ⟨m, hget, hscope, hnew⟩
    · exact .inl hsame
    · obtain ⟨s, hgather, hs⟩ := gather_of_run hrun hget
      obtain ⟨other, d, horiginates⟩ := ledgerOf_originates hget
      exact .inr ⟨s, m, other, d, hgather, hs, hscope, hnew, horiginates⟩
  · rw [hleft.parent hid]
    exact asVisited_parent_cases hid

/-! ## Versions of all kinds -/

def oneOfEach : Progress where
  reactor := {
    modules := [
      { group := some "org.a", name := "app", version := some "1",
        parent := some { group := "org.corp", name := "corp-parent", version := "10" },
        body := {
          properties := Table.ofList [("lib.version", "1.0")]
          dependencies := [
            { group := "org.b", name := "lib", version := some "$\x7blib.version\x7d" },
            { group := "org.b", name := "tool", version := some "1.0" }] } }]
    forest := Reactor.forest_of_checks (by simp) (by decide) (by decide) }
  report := {}

/-- Both sources have the library, and the bill of materials loses. A rule forces the tool. -/
def layeredAlignment : DependencyAlignment where
  config := { precedence := .restThenBom, overrideTransitive := true }
  strict := {}
  sources := {
    bom := .ofCoordinates .bom [
      Artifact.at { group := "org.b", name := "lib" } "1.1",
      Artifact.at { group := "org.b", name := "core" } "3.0"]
    rest := .ofCoordinates .rest [
      Artifact.at { group := "org.b", name := "lib" } "2.0",
      Artifact.at { group := "org.corp", name := "corp-parent" } "11"] }
  rules := {
    rules := [
      { target := .artifact { group := "org.b", name := "tool" }, module := none,
        verdict := .force " 5 " }] }

theorem provenance_oneOfEach : ∃ p', layeredAlignment.run oneOfEach = .ok p' ∧
    (p'.reactor.module 0).declarations.map Declaration.version =
      [some "3.0", some "2.0", some "11", some "$\x7blib.version\x7d", some "5"] ∧
    (p'.reactor.module 0).property? .main "lib.version" = some "2.0" ∧
    (p'.reactor.module 0).parent.map Parent.version = some "11" ∧
    ∀ id ∈ oneOfEach.reactor.ids, Provenance layeredAlignment oneOfEach id (p'.reactor.module id) := by
  have hrun : layeredAlignment.run oneOfEach =
      .ok ((layeredAlignment.run oneOfEach).toOption.getD oneOfEach) := by
    decide +kernel
  exact ⟨_, hrun, by decide +kernel, by decide +kernel, by decide +kernel, run_provenance hrun⟩

end BuildAlign.DependencyAlignment
