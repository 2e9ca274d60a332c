import BuildAlign.Proofs.Alignment.Outcome

/-!
Versions of modules across the alignment of dependencies. Without explicit rules a module keeps its
own version, unless the version reads a property that is aligned for another declaration, or reads
the version of a declared parent that is aligned. The guard against self-references compares a
declaration with the version of the module that declares it, not with the versions of other modules
that read the same property.
-/

namespace BuildAlign.DependencyAlignment

open Reactor

/-- How the alignment may change the version of a module that is declared in it. -/
inductive Reversioned (a : DependencyAlignment) (r : Reactor) (id : Nat) (raw : String) : Prop where
  /-- The version reads a property at the very place that the version text of a declaration leads
  to, which is moved, and which is not the version of the module that declares it. -/
  | property {name property old target : String} {other : Nat} {d : Declaration}
      (read : name ∈ r.namesRead id raw) (declared : d ∈ (r.module other).declarations)
      (version : d.version = some old) (refers : propertyOf? old = some property)
      (lives : (PropertyLedger.ownerOf r other property).1 = ⟨r.readsFrom id name, name⟩)
      (foreign : r.isOwnVersion other old = false) (unwritten : (r.module other).version ≠ some old)
      (moves : a.Moves r other d old target false)
  /-- The version reads that of the declared parent, which is moved. -/
  | parent {name target : String} {parent : Parent} (read : name ∈ r.namesRead id raw)
      (part : ProjectPart.ofName? name = some .parentVersion) (root : r.isRoot id = true)
      (declared : (r.module id).parent = some parent)
      (cause : a.ParentCause (a.visit r id) r parent target)

variable {a : DependencyAlignment} {r : Reactor}

/-- Without rules a declaration is moved only by overrides, past the guard. -/
theorem Moves.guarded (hrules : a.rules.isEmpty = true) {id : Nat} {d : Declaration}
    {old target : String} {explicit : Bool} (h : a.Moves r id d old target explicit)
    (hreference : Template.hasReference old = true) :
    explicit = false ∧ r.isOwnVersion id old = false ∧ (r.module id).version ≠ some old := by
  obtain ⟨rfl, r', hframe, hmatched⟩ := h.matched hrules
  have hguarded := hmatched.guarded
  simp only [Evaluator.isSelfReference, Site.of, hreference, Bool.true_and,
    Bool.or_eq_false_iff, beq_eq_false_iff_ne] at hguarded
  refine ⟨rfl, ?_, ?_⟩
  · rw [← hframe.isOwnVersion]
    exact hguarded.2
  · intro hversion
    apply hguarded.1
    rw [Module.writtenVersion, (hframe.modules id).version, hversion, Option.some_or]

/-- A name that is not the same after the run, in the version of a module that is declared in it. -/
theorem reversioned_of_lookup_ne {p p' : Progress} (hran : Ran a p p')
    (hrules : a.rules.isEmpty = true) {id : Nat} {raw name : String}
    (hversion : (p.reactor.module id).version = some raw)
    (hread : name ∈ p.reactor.namesRead id raw)
    (hne : p'.reactor.lookup id name ≠ p.reactor.lookup id name) :
    Reversioned a p.reactor id raw := by
  cases hpart : ProjectPart.ofName? name with
  | some part =>
    simp only [lookup, hpart] at hne
    have hparent : part = .parentVersion := by
      by_contra hpart
      exact hne ((hran.sameCoordinate id).part hpart fun _ => by simp [hversion])
    subst hparent
    have hmoved := hran.parent id
    generalize hafter : (p'.reactor.module id).parent = parent' at hmoved
    cases hmoved with
    | kept => exact absurd (congrArg (Option.map Parent.version) hafter) hne
    | moved hroot hdeclared hcause => exact .parent hread hpart hroot hdeclared hcause
  | none =>
    simp only [lookup, hpart] at hne
    obtain ⟨ledger, q, htraced, hframe, hflush⟩ := hran.exists_ledger
    have hwritten : ledger.writes? ⟨p.reactor.readsFrom id name, name⟩ ≠ none := by
      intro hnone
      rw [← hframe.readsFrom] at hnone
      apply hne
      rw [hflush, PropertyLedger.declaredProperty?_flush_of_not_written
        (htraced.toFits.sameFrame hframe) hnone, hframe.declaredProperty?]
    obtain ⟨⟨scope, new⟩, hw⟩ := Option.ne_none_iff_exists'.mp hwritten
    cases htraced.demanded _ scope new hw with
    | of hinside hdeclared hdversion hproperty hlives hmoves =>
      have hreference : Template.hasReference _ = true :=
        (propertyOf?_eq_some hproperty).1 ▸ Template.hasReference_referenceText _
      obtain ⟨rfl, hforeign, hunwritten⟩ := hmoves.guarded hrules hreference
      exact .property hread hdeclared hdversion hproperty hlives hforeign hunwritten hmoves

/-- The root has the version of its property `rev`, and its child depends on a library with that
version. -/
def sharedRevision : Progress where
  reactor := {
    modules := [
      { group := some "org.app", name := "parent", version := some "$\x7brev\x7d",
        packaging := "pom",
        body := { properties := Table.ofList [("rev", "1.0")] } },
      { name := "core", version := some "5", parentModule := some 0,
        parent := some { group := "org.app", name := "parent", version := "$\x7brev\x7d" },
        body := {
          dependencies := [{ group := "org.b", name := "lib", version := some "$\x7brev\x7d" }] } }]
    forest := Reactor.forest_of_checks (by simp) (by decide) (by decide) }
  report := {}

def versionOfParent : Progress where
  reactor := {
    modules := [
      { group := some "org.app", name := "app", version := some "$\x7bproject.parent.version\x7d",
        parent := some { group := "org.corp", name := "corp-parent", version := "10" } }]
    forest := Reactor.forest_of_checks (by simp) (by decide) (by decide) }
  report := {}

def alignmentTo (target : Coordinate) : DependencyAlignment where
  config := { precedence := .bom }
  strict := {}
  sources := { bom := .ofCoordinates .bom [target] }
  rules := {}

def libraryAlignment : DependencyAlignment :=
  alignmentTo (Artifact.at { group := "org.b", name := "lib" } "2.0")

def parentAlignment : DependencyAlignment :=
  alignmentTo (Artifact.at { group := "org.corp", name := "corp-parent" } "11")

end BuildAlign.DependencyAlignment
