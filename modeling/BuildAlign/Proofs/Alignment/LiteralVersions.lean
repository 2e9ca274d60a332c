import BuildAlign.Proofs.Alignment.Result
import BuildAlign.Proofs.Override.Entries

/-!
The alignment of declarations whose versions are written out. If no declared version has a
reference, no property is demanded, so without fatal strict violations the alignment succeeds, and
what it makes of a version text is told in one definition: the forced version, or else the first
version of the merged overrides that the strict check lets pass.
-/

namespace BuildAlign

def Reactor.LiteralVersions (r : Reactor) : Prop :=
  ∀ id ∈ r.ids, ∀ d ∈ (r.module id).declarations, ∀ old ∈ d.version,
    Template.hasReference old = false

instance (r : Reactor) : Decidable r.LiteralVersions :=
  inferInstanceAs (Decidable (∀ id ∈ r.ids, _))

namespace DependencyAlignment

variable (a : DependencyAlignment) (r : Reactor) (id : Nat)

/-- What becomes of the version of an artifact in a module. -/
def prescribed (artifact : Artifact) (old : String) : String :=
  let rules := a.rules.inModule (r.artifact id)
  match rules.versionFor? artifact with
  | some version => (Text.nonBlank? version).getD old
  | none =>
    if rules.excludes artifact = true ∨ artifact ∈ r.ids.map r.artifact then old
    else
      let versions := candidateVersions ((a.sources.merge a.config.precedence).entriesOf artifact)
      (if a.strict.enabled then versions.find? (a.strict.check old) else versions.head?).getD old

/-- What becomes of a declaration. A blank version stays as it is, and so does a missing one. -/
def prescribe (d : Declaration) : Declaration :=
  { d with
    version := d.version.map fun old =>
      if Text.isBlank old then old
      else a.prescribed r id ((a.asVisited r id).declaredArtifact id d) old }

variable {a r id} {d : Declaration} {old : String}

theorem isSelfReference_literal (hold : Template.hasReference old = false) :
    Evaluator.isSelfReference r id old = false := by
  have hown : r.isOwnVersion id old = false := by
    rw [Reactor.isOwnVersion, Reactor.maxDepth, Reactor.followsVersion,
      Template.single?_of_not_hasReference hold]
  rw [Evaluator.isSelfReference, hold, hown]
  rfl

/-- The target of a literal version is the prescribed one, and without a target it stays. -/
theorem target?_literal {site : Site} (hold : Template.hasReference old = false) :
    ((a.target? (a.visit r id) (a.asVisited r id) site old).map Prod.fst).getD old =
      a.prescribed r id site.artifact old := by
  have hfst : ∀ (target : Option String) (explicit : Bool),
      (target.map (·, explicit)).map Prod.fst = target := by
    intro target explicit
    cases target <;> rfl
  have hstrict : a.evaluator.strict = a.strict := rfl
  simp only [target?, prescribed, visit]
  cases (a.rules.inModule (r.artifact id)).versionFor? site.artifact with
  | some version =>
    dsimp only
    rw [Evaluator.ruleTarget?, hfst]
  | none =>
    simp only [Evaluator.entryTarget?, isSelfReference_literal hold, entriesOf_inModule, hstrict,
      (a.asVisited r id).resolve_of_not_hasReference _ hold, Bool.false_eq_true, if_false, hfst]
    split
    · simp [candidateVersions, StrictPolicy.choose?]
    · rw [StrictPolicy.choose?]

/-- A literal version text is replaced by the target, without a look at what it refers to. -/
theorem realign_requestMove {site : Site} {target : String} {explicit : Bool}
    (hversion : d.version = some old) (hold : Template.hasReference old = false) :
    (a.evaluator.requestMove site old target explicit).realign d =
      { d with version := some target } := by
  rw [Evaluator.requestMove, propertyOf?_of_not_hasReference hold]
  simp only [a.evaluator.literalText_of_not_hasReference hold]
  split
  · rename_i hsame
    rw [hsame, ← hversion]
    rfl
  · rfl

/-- A declaration with a literal version gets the prescribed one. -/
theorem realign_literal (hold : ∀ old ∈ d.version, Template.hasReference old = false) :
    a.realign r id d = a.prescribe r id d := by
  rw [realign, request, requestOf, prescribe]
  generalize hsite : Site.of (a.asVisited r id) (a.visit r id).module (a.visit r id).artifact d = site
  have hartifact : (a.asVisited r id).declaredArtifact id d = site.artifact := hsite ▸ rfl
  have hversion : site.version? = d.version.filter fun v => !Text.isBlank v := hsite ▸ rfl
  rw [hartifact]
  have hkept : ∀ version, d.version = version → Request.nothing.realign d = { d with version } := by
    rintro version rfl
    rfl
  cases hdeclared : d.version with
  | none =>
    rw [hdeclared, Option.filter_none] at hversion
    rw [Evaluator.requestTo, hversion]
    exact hkept none hdeclared
  | some old =>
    have hliteral : Template.hasReference old = false := hold old hdeclared
    rw [hdeclared] at hversion
    rw [Option.map_some]
    cases hblank : Text.isBlank old with
    | true =>
      rw [Option.filter_some_neg (by simp [hblank])] at hversion
      rw [Evaluator.requestTo, hversion, if_pos rfl]
      exact hkept (some old) hdeclared
    | false =>
      rw [Option.filter_some_pos (by simp [hblank])] at hversion
      rw [if_neg Bool.false_ne_true, ← target?_literal hliteral]
      cases htarget : a.target? (a.visit r id) (a.asVisited r id) site old with
      | none =>
        simp only [Evaluator.requestTo, hversion, htarget]
        exact hkept (some old) hdeclared
      | some target =>
        rw [a.evaluator.requestTo_of_some site hversion htarget,
          realign_requestMove hdeclared hliteral]
        rfl

theorem demands_literal (hliteral : r.LiteralVersions) : a.demands r = [] := by
  refine List.flatMap_eq_nil_iff.mpr fun id hid => List.filterMap_eq_nil_iff.mpr fun d hd => ?_
  have hasked := requestOf_asked a (a.visit r id) (a.asVisited r id) d
  rw [request]
  generalize a.requestOf (a.visit r id) (a.asVisited r id) d = x at hasked
  cases hasked with
  | nothing | rewrite => rfl
  | demand hversion _ hproperty _ =>
    have hold := hliteral id (List.mem_range.mpr (Reactor.lt_of_mem_order hid)) d hd _ hversion
    rw [propertyOf?_of_not_hasReference hold] at hproperty
    cases hproperty

/-- The alignment of literal versions succeeds, and every declaration becomes what is prescribed. -/
theorem run_literal (a : DependencyAlignment) (p : Progress)
    (hliteral : p.reactor.LiteralVersions) (hlenient : a.strict.failOnViolation = false)
    (htransitive : a.config.overrideTransitive = false) :
    ∃ p', a.run p = .ok p' ∧ ∀ id ∈ p.reactor.ids,
      (p'.reactor.module id).declarations =
        (p.reactor.module id).declarations.map (a.prescribe p.reactor id) := by
  cases hrun : a.run p with
  | error e =>
    have hexact := a.run_exact p
    rw [hrun] at hexact
    rcases hexact with hfatal | hdemands
    · exact absurd (hfatal.symm.trans hlenient) nofun
    · exact absurd (demands_literal hliteral) hdemands
  | ok p' =>
    refine ⟨p', rfl, fun id hid => ?_⟩
    rw [(left_of_run hrun).declarations_of_not_transitive (List.mem_range.mp hid) htransitive]
    exact List.map_congr_left fun d hd => realign_literal (hliteral id hid d hd)

/-! ## Checked, forced and excluded versions -/

/-- One module with three dependencies and a managed one. -/
def writtenOut : Progress where
  reactor := {
    modules := [
      { group := some "org.a", name := "app", version := some "1",
        body := {
          dependencies := [
            { group := "org.b", name := "lib", version := some "1.0" },
            { group := "org.b", name := "tool", version := some "1.0" },
            { group := "org.b", name := "core", version := some "1.0" }]
          managedDependencies := [{ group := "org.b", name := "lib" }] } }]
    forest := Reactor.forest_of_checks (by simp) (by decide) (by decide) }
  report := {}

/-- Overrides for all three under the strict check, a version forced for the second one, and the
third one excluded. -/
def mixedAlignment : DependencyAlignment where
  config := { precedence := .bom }
  strict := StrictPolicy.ofLabel "redhat" false
  sources := {
    bom := .ofCoordinates .bom [
      Artifact.at { group := "org.b", name := "lib" } "2.0",
      Artifact.at { group := "org.b", name := "lib" } "1.0.redhat-1",
      Artifact.at { group := "org.b", name := "tool" } "1.0.redhat-1",
      Artifact.at { group := "org.b", name := "core" } "1.0.redhat-1"] }
  rules := {
    rules := [
      { target := .artifact { group := "org.b", name := "tool" }, module := none,
        verdict := .force " 3.0 " },
      { target := .artifact { group := "org.b", name := "core" }, module := none,
        verdict := .exclude }] }

theorem run_literal_writtenOut : ∃ p', mixedAlignment.run writtenOut = .ok p' ∧
    (p'.reactor.module 0).declarations.map Declaration.version =
      [none, some "1.0.redhat-1", some "3.0", some "1.0"] := by
  obtain ⟨p', hrun, hprescribed⟩ := run_literal mixedAlignment writtenOut (by decide +kernel) rfl rfl
  refine ⟨p', hrun, ?_⟩
  rw [hprescribed 0 (by decide +kernel)]
  decide +kernel

end DependencyAlignment

end BuildAlign
