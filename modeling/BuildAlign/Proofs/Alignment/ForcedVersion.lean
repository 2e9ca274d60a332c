import BuildAlign.Proofs.Alignment.Walk

/-!
Strict violations where explicit rules force a version. No dependency, plugin or plugin dependency
is checked if its version is forced. The declared parent of a root is checked first and forced
afterwards: its check counts although its outcome is not going to be used.
-/

namespace BuildAlign.DependencyAlignment

open Violation

/-- A strict violation, as the error of a run or as a new warning, is one of an artifact whose
version no rule forces in the module, or of the declared parent of a root. The latter is reported
whenever the check fails, whatever the rules say, and a run goes on after it only if violations are
not fatal. -/
theorem violation_unforced_or_parent (a : DependencyAlignment) (p : Progress) :
    (∀ x, a.run p = .error (Violation.error x) → MayViolate a p.reactor x) ∧
      ∀ p', a.run p = .ok p' →
        (∃ new, p'.report.warnings = p.report.warnings ++ new ∧
          ∀ w ∈ new, w.kind = .strictViolation → ∃ x, MayViolate a p.reactor x ∧ w = x.warning) ∧
        ∀ id < p.reactor.size, p.reactor.isRoot id = true →
          ∀ x, ParentViolation a (a.visit p.reactor id) p.reactor x →
            a.strict.failOnViolation = false ∧ x.warning ∈ p'.report.warnings := by
  have hrun := run_spec a p
  constructor
  · intro x hx
    rw [hx] at hrun
    exact hrun x rfl
  · intro p' hp'
    rw [hp'] at hrun
    refine ⟨hrun.reported, fun id hid hroot x hx => ?_⟩
    exact (hrun.roots id hid hroot x hx).symm

/-! ## A parent that is forced and checked -/

/-- One module with an external parent. -/
def externalParent : Progress where
  reactor := {
    modules := [
      { group := some "org.app", name := "parent", version := some "1.0", packaging := "pom",
        parent := some { group := "org.corp", name := "corp-parent", version := "10" } }]
    forest := Reactor.forest_of_checks (by simp) (by decide) (by decide) }
  report := {}

def corpParent : Artifact :=
  { group := "org.corp", name := "corp-parent" }

/-- A rule forces version 11 of the parent. The bill of materials has another version of it, which
the strict check does not let pass. -/
def forcedParent : DependencyAlignment where
  config := { precedence := .bom }
  strict := StrictPolicy.ofLabel "redhat" true
  sources := { bom := .ofCoordinates .bom [corpParent.at "11.0.redhat-1"] }
  rules := { rules := [{ target := .artifact corpParent, module := none, verdict := .force "11" }] }

def corpParentViolation : Violation where
  module := { group := "org.app", name := "parent" }
  artifact := corpParent
  kind := .parent
  present := "10"
  candidate := "11.0.redhat-1"

theorem mayViolate_corpParent :
    MayViolate forcedParent externalParent.reactor corpParentViolation :=
  (violation_unforced_or_parent forcedParent externalParent).1 corpParentViolation
    (by decide +kernel)

/-- The rule forces the version, and the run is aborted all the same. -/
theorem forced_parent_violates :
    (forcedParent.rules.inModule { group := "org.app", name := "parent" }).versionFor? corpParent =
        some "11" ∧
      forcedParent.run externalParent = .error (.strictViolation
        { group := "org.app", name := "parent" } corpParent .parent "10" "11.0.redhat-1") := by
  decide +kernel

end BuildAlign.DependencyAlignment
