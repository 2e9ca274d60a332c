import BuildAlign.Proofs.Alignment.Sourced
import Mathlib.Data.List.Forall2

/-!
Which declarations get another version text. The text has to be there and must not be a reference to
a property as a whole, and there has to be a version for the artifact: one that a rule forces, or an
override that counts in the module. All other declarations stay as they are, and none is added,
removed or moved.
-/

namespace BuildAlign.DependencyAlignment

/-- A declaration that may get another version text. Its artifact is the one that it names when its
module is visited. -/
structure Entitled (a : DependencyAlignment) (r : Reactor) (id : Nat) (d : Declaration) : Prop where
  text : ∃ old, d.version = some old ∧ Text.isBlank old = false ∧ propertyOf? old = none
  supplied :
    let artifact := (a.asVisited r id).declaredArtifact id d
    let rules := a.rules.inModule (r.artifact id)
    (rules.versionFor? artifact).isSome = true ∨
      (∃ e ∈ (a.sources.merge a.config.precedence).entries, e.artifact = artifact) ∧
        artifact ∉ r.ids.map r.artifact ∧ rules.excludes artifact = false

variable {a : DependencyAlignment} {r : Reactor} {id : Nat} {d : Declaration}

theorem entitled_of_realign_ne (h : (a.realign r id d).version ≠ d.version) :
    Entitled a r id d := by
  have hasked := requestOf_asked a (a.visit r id) (a.asVisited r id) d
  rw [realign, request] at h
  generalize a.requestOf (a.visit r id) (a.asVisited r id) d = x at hasked h
  cases hasked with
  | nothing | demand => exact absurd rfl h
  | rewrite hversion hblank hliteral hcause =>
    refine ⟨⟨_, hversion, hblank, hliteral⟩, ?_⟩
    have hsourced := sourced_of_cause hcause
    cases hsourced with
    | rule hforced =>
      left
      rw [hforced]
      rfl
    | entry hnamed hmerged _ hallowed hforeign => exact .inr ⟨⟨_, hmerged, hnamed⟩, hforeign, hallowed⟩

/-- After a run without added dependencies a module has the declarations of before, in their order,
and only entitled ones may have another version text. -/
theorem rewritten_entitled {p p' : Progress} (htransitive : a.config.overrideTransitive = false)
    (hrun : a.run p = .ok p') : ∀ id ∈ p.reactor.ids,
      List.Forall₂
        (fun d d' => { d' with version := d.version } = d ∧
          (d'.version ≠ d.version → Entitled a p.reactor id d))
        (p.reactor.module id).declarations (p'.reactor.module id).declarations := by
  intro id hid
  have hleft := left_of_run hrun
  rw [hleft.declarations_of_not_transitive (List.mem_range.mp hid) htransitive,
    List.forall₂_map_right_iff, List.forall₂_same]
  intro d _
  refine ⟨?_, entitled_of_realign_ne⟩
  rw [realign, Request.realign]
  split <;> rfl

/-! ## A module with one entitled declaration -/

/-- One module with three dependencies, the first of which takes its version from a property. -/
def oneEntitled : Progress where
  reactor := {
    modules := [
      { group := some "org.a", name := "app", version := some "1",
        body := {
          properties := Table.ofList [("lib.version", "1.0")]
          dependencies := [
            { group := "org.b", name := "lib", version := some "$\x7blib.version\x7d" },
            { group := "org.b", name := "tool", version := some "1.0" },
            { group := "org.b", name := "core", version := some "1.0" }] } }]
    forest := Reactor.forest_of_checks (by simp) (by decide) (by decide) }
  report := {}

/-- Overrides for all three, the last of which is excluded. -/
def excludingAlignment : DependencyAlignment where
  config := { precedence := .bom }
  strict := {}
  sources := {
    bom := .ofCoordinates .bom [
      Artifact.at { group := "org.b", name := "lib" } "2.0",
      Artifact.at { group := "org.b", name := "tool" } "2.0",
      Artifact.at { group := "org.b", name := "core" } "2.0"] }
  rules := {
    rules := [
      { target := .artifact { group := "org.b", name := "core" }, module := none,
        verdict := .exclude }] }

theorem rewritten_oneEntitled : ∃ p', excludingAlignment.run oneEntitled = .ok p' ∧
    (p'.reactor.module 0).declarations.map Declaration.version =
      [some "$\x7blib.version\x7d", some "2.0", some "1.0"] ∧
    List.Forall₂
      (fun d d' => { d' with version := d.version } = d ∧
        (d'.version ≠ d.version → Entitled excludingAlignment oneEntitled.reactor 0 d))
      (oneEntitled.reactor.module 0).declarations (p'.reactor.module 0).declarations := by
  have hrun : excludingAlignment.run oneEntitled =
      .ok ((excludingAlignment.run oneEntitled).toOption.getD oneEntitled) := by
    decide +kernel
  exact ⟨_, hrun, by decide +kernel, rewritten_entitled rfl hrun 0 (by decide +kernel)⟩

end BuildAlign.DependencyAlignment
