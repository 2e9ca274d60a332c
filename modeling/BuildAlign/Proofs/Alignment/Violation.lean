import BuildAlign.Alignment.Evaluation
import BuildAlign.Proofs.Satisfies

/-!
Strict violations and where they show. A violation is the error of a pass or a warning of its
report, and says which reference of which module was checked, and which versions. A computation
reports only violations with some property if its error, if it is one, has it, and each of the new
warnings that are ones.
-/

namespace BuildAlign

/-! ## Reports that grow -/

/-- A report with more warnings than before, all of which have a property. -/
def Report.WarnsOnly (P : Warning → Prop) (before after : Report) : Prop :=
  ∃ new, after.warnings = before.warnings ++ new ∧ ∀ w ∈ new, P w

namespace Report.WarnsOnly

variable {P : Warning → Prop} {r r' r'' : Report}

theorem of_eq (h : r'.warnings = r.warnings) : WarnsOnly P r r' :=
  ⟨[], by rw [h, List.append_nil], nofun⟩

theorem trans (h : WarnsOnly P r r') (h' : WarnsOnly P r' r'') : WarnsOnly P r r'' := by
  obtain ⟨new, hwarnings, hnew⟩ := h
  obtain ⟨new', hwarnings', hnew'⟩ := h'
  refine ⟨new ++ new', by rw [hwarnings', hwarnings, List.append_assoc], fun w hw => ?_⟩
  rcases List.mem_append.mp hw with hw | hw
  · exact hnew w hw
  · exact hnew' w hw

/-- No warning is lost. -/
theorem mem (h : WarnsOnly P r r') {w : Warning} (hw : w ∈ r.warnings) : w ∈ r'.warnings := by
  obtain ⟨new, hwarnings, _⟩ := h
  rw [hwarnings]
  exact List.mem_append_left new hw

theorem warn {kind : WarningKind} {module : Option Artifact} {message : String}
    (h : P { kind, module, message }) : WarnsOnly P r (r.warn kind module message) :=
  ⟨[{ kind, module, message }], rfl, fun _ hw => List.mem_singleton.mp hw ▸ h⟩

end Report.WarnsOnly

/-! ## Violations -/

/-- A strict check that no candidate passed: the reference, its present version, and the first
candidate. -/
structure Violation where
  module : Artifact
  artifact : Artifact
  kind : ReferenceKind
  present : String
  candidate : String

namespace Violation

def error (x : Violation) : AlignError :=
  .strictViolation x.module x.artifact x.kind x.present x.candidate

def warning (x : Violation) : Warning where
  kind := .strictViolation
  module := some x.module
  message :=
    "replacing " ++ x.present ++ " with " ++ x.candidate ++ " for " ++ x.kind.word ++ " "
      ++ x.artifact.text ++ " violates the strict version-alignment rule; skipped"

/-- The new warnings of a report that are strict violations are ones with a property. -/
def Reported (P : Violation → Prop) : Report → Report → Prop :=
  Report.WarnsOnly fun w => w.kind = .strictViolation → ∃ x, P x ∧ w = x.warning

/-- An error that is a strict violation is one with a property. -/
def Raised (P : Violation → Prop) (e : AlignError) : Prop :=
  ∀ x, e = Violation.error x → P x

variable {P : Violation → Prop}

/-- A warning of another kind. -/
theorem reported_warn {kind : WarningKind} (hkind : kind ≠ .strictViolation) (report : Report)
    (module : Option Artifact) (message : String) :
    Reported P report (report.warn kind module message) :=
  .warn fun h => absurd h hkind

theorem reported_of_eq {report report' : Report} (h : report'.warnings = report.warnings) :
    Reported P report report' :=
  .of_eq h

/-- A loop whose steps all report only such violations. -/
theorem reported_foldl {α σ : Type} (report : σ → Report) {f : σ → α → σ}
    (hf : ∀ s x, Reported P (report s) (report (f s x))) (items : List α) (s : σ) :
    Reported P (report s) (report (items.foldl f s)) := by
  induction items generalizing s with
  | nil => exact reported_of_eq rfl
  | cons x later ih => exact (hf s x).trans (ih (f s x))

/-- A violation is reported as itself. -/
theorem violation_spec (p : StrictPolicy) (report : Report) {x : Violation} (hx : P x) :
    Satisfies
      (fun report' => Reported P report report' ∧ x.warning ∈ report'.warnings ∧
        p.failOnViolation = false)
      (Raised P) (p.violation report x.module x.artifact x.kind x.present x.candidate) := by
  rw [StrictPolicy.violation]
  split
  · intro y hy
    obtain rfl : x = y := by
      cases x
      cases y
      simpa [error] using hy
    exact hx
  · rename_i hlenient
    refine ⟨.warn fun _ => ⟨x, hx, rfl⟩, ?_, by simpa using hlenient⟩
    exact List.mem_append_right _ (List.mem_singleton_self _)

end Violation

end BuildAlign
