import BuildAlign.Alignment.Dependencies
import BuildAlign.Proofs.Alignment.Violation

/-!
What aligning the declared parent of a module does, and why. Its version is moved to one that
explicit rules force, or else to the one that the overrides give. The strict check of the overrides
is made and reported in either case.
-/

namespace BuildAlign.DependencyAlignment

open Violation

def Visit.parentCandidates (v : Visit) (parent : Parent) : List String :=
  candidateVersions (v.overrides.entriesOf parent.artifact)

variable (a : DependencyAlignment) (v : Visit) (r : Reactor)

/-- Why a declared parent is moved to a version. -/
inductive ParentCause (parent : Parent) : String → Prop where
  | matched {target : String} (unforced : v.rules.versionFor? parent.artifact = none)
      (chosen : a.strict.choose? (r.resolve v.module parent.version) (v.parentCandidates parent) =
        some target) : ParentCause parent target
  | forced {version : String} (forced : v.rules.versionFor? parent.artifact = some version) :
      ParentCause parent version

/-- What aligning the declared parent does to the reactor. -/
inductive ParentEffect : Reactor → Prop where
  | nothing : ParentEffect r
  | moved {parent : Parent} {new : String} (declared : (r.module v.module).parent = some parent)
      (cause : a.ParentCause v r parent new) : ParentEffect (r.setParentVersion v.module new)

/-- A strict check that no version for the declared parent passed. -/
structure ParentViolation (x : Violation) : Prop where
  kind : x.kind = .parent
  module : x.module = v.artifact
  failed : ∃ parent others, (r.module v.module).parent = some parent ∧
    x.artifact = parent.artifact ∧ x.present = r.resolve v.module parent.version ∧
    v.parentCandidates parent = x.candidate :: others ∧
    a.strict.choose? x.present (x.candidate :: others) = none

/-- Every strict check that the declared parent failed is a warning, since it is not fatal. -/
def ParentReported (report : Report) : Prop :=
  ∀ x, ParentViolation a v r x → x.warning ∈ report.warnings ∧ a.strict.failOnViolation = false

variable {a v} {P : Violation → Prop} {p : Progress} {parent : Parent}

/-- The version for a declared parent is one that the check lets pass. Otherwise the violation is
reported, or it ends the run. -/
theorem parentTarget_spec (hparent : (p.reactor.module v.module).parent = some parent)
    (hP : ∀ x, ParentViolation a v p.reactor x → P x) :
    Satisfies
      (fun x =>
        (∀ target, x.1 = some target →
          a.strict.choose? (p.reactor.resolve v.module parent.version) (v.parentCandidates parent) =
            some target) ∧
        Reported P p.report x.2 ∧ ParentReported a v p.reactor x.2)
      (Raised P) (a.parentTarget v p parent) := by
  have hfailed : ∀ x, ParentViolation a v p.reactor x → ∃ others,
      v.parentCandidates parent = x.candidate :: others ∧
      a.strict.choose? (p.reactor.resolve v.module parent.version) (x.candidate :: others) = none ∧
      x = ⟨v.artifact, parent.artifact, .parent, p.reactor.resolve v.module parent.version,
        x.candidate⟩ := by
    rintro ⟨module, artifact, kind, present, candidate⟩
      ⟨rfl, rfl, parent', others, hparent', rfl, rfl, hcandidates, hnone⟩
    obtain rfl : parent' = parent := Option.some.inj (hparent'.symm.trans hparent)
    exact ⟨others, hcandidates, hnone, rfl⟩
  simp only [parentTarget]
  split
  · rename_i hcandidates
    refine ⟨fun target h => absurd h nofun, reported_of_eq rfl, fun x hx => ?_⟩
    obtain ⟨others, hx, _⟩ := hfailed x hx
    exact absurd (hx.symm.trans hcandidates) nofun
  · rename_i first others hcandidates
    split
    · rename_i chosen hchosen
      refine ⟨fun target htarget => ?_, reported_of_eq rfl, fun x hx => ?_⟩
      · rw [Visit.parentCandidates, hcandidates, hchosen]
        exact htarget
      · obtain ⟨others', hx, hnone, _⟩ := hfailed x hx
        rw [← hx, Visit.parentCandidates, hcandidates, hchosen] at hnone
        exact absurd hnone nofun
    · rename_i hnone
      have hviolation : P ⟨v.artifact, parent.artifact, .parent,
          p.reactor.resolve v.module parent.version, first⟩ :=
        hP _ ⟨rfl, rfl, parent, others, hparent, rfl, rfl, hcandidates, hnone⟩
      refine (violation_spec a.strict p.report hviolation).map ?_
      rintro report ⟨hreport, hwarned⟩
      refine ⟨fun target h => absurd h nofun, hreport, fun x hx => ?_⟩
      obtain ⟨others', hx, _, heq⟩ := hfailed x hx
      obtain ⟨rfl, _⟩ := List.cons.inj (hcandidates.symm.trans hx)
      rw [heq]
      exact hwarned

/-- Aligning the declared parent changes nothing but its version, and for one of the known causes.
-/
theorem alignParent_spec (hP : ∀ x, ParentViolation a v p.reactor x → P x) :
    Satisfies
      (fun p' => ParentEffect a v p.reactor p'.reactor ∧ Reported P p.report p'.report ∧
        ParentReported a v p.reactor p'.report)
      (Raised P) (a.alignParent v p) := by
  rw [alignParent]
  split
  · rename_i hnone
    refine ⟨.nothing, reported_of_eq rfl, fun x hx => ?_⟩
    obtain ⟨parent, _, hparent, _⟩ := hx.failed
    exact absurd (hparent.symm.trans hnone) nofun
  · rename_i parent hparent
    refine (parentTarget_spec hparent hP).bind ?_
    rintro ⟨target, report⟩ ⟨htarget, hreport⟩
    dsimp only
    split
    · exact ⟨.nothing, hreport⟩
    · rename_i new hnew
      have hcause : a.ParentCause v p.reactor parent new := by
        cases hforced : v.rules.versionFor? parent.artifact with
        | none =>
          rw [hforced, Option.none_or] at hnew
          exact .matched hforced (htarget new hnew)
        | some version =>
          rw [hforced, Option.some_or] at hnew
          obtain rfl : version = new := Option.some.inj hnew
          exact .forced hforced
      split
      · exact ⟨.nothing, hreport⟩
      · exact ⟨.moved hparent hcause, hreport.1.trans (reported_of_eq rfl), hreport.2⟩

end BuildAlign.DependencyAlignment
