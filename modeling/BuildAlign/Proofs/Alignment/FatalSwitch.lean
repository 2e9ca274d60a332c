import BuildAlign.Proofs.Alignment.Phases
import BuildAlign.Proofs.Escalation

/-!
The three settings that make a problem of the alignment fatal: a failed strict check, two demands on
one property, and a declaration that follows a property which it was not aligned to. The alignment
with such a setting and the one without it are compared step by step.
-/

namespace BuildAlign

/-- A setting that decides whether a kind of problem is fatal or a warning. -/
inductive FatalSwitch where
  | strictViolation
  | propertyClash
  | propertyValidation

namespace FatalSwitch

def kind : FatalSwitch → WarningKind
  | strictViolation => .strictViolation
  | propertyClash => .propertyClash
  | propertyValidation => .propertyValidation

/-- The configuration with the setting on the fatal or on the lenient side. -/
def set (fatal : Bool) (c : AlignmentConfig) : FatalSwitch → AlignmentConfig
  | strictViolation => { c with strict := { c.strict with failOnViolation := fatal } }
  | propertyClash => { c with failOnPropertyClash := fatal }
  | propertyValidation => { c with propertyValidation := if fatal then .fail else .warn }

/-- The strict check with the setting on one side. -/
def policy (fatal : Bool) (p : StrictPolicy) : FatalSwitch → StrictPolicy
  | strictViolation => { p with failOnViolation := fatal }
  | _ => p

def alignment (fatal : Bool) (a : DependencyAlignment) (x : FatalSwitch) : DependencyAlignment :=
  { a with config := x.set fatal a.config, strict := x.policy fatal a.strict }

variable (x : FatalSwitch)

theorem choose?_policy (fatal : Bool) (p : StrictPolicy) (present : String)
    (candidates : List String) :
    (x.policy fatal p).choose? present candidates = p.choose? present candidates := by
  cases x <;> rfl

/-! ## The sites that depend on the setting -/

theorem violation_escalates (p : StrictPolicy) (report : Report) (module artifact : Artifact)
    (kind : ReferenceKind) (present candidate : String) :
    Escalates x.kind report (fun report' => report')
      ((x.policy true p).violation report module artifact kind present candidate)
      ((x.policy false p).violation report module artifact kind present candidate) := by
  rw [StrictPolicy.violation, StrictPolicy.violation]
  apply Escalates.guarded .strictViolation
  · cases x <;> simp [FatalSwitch.kind, policy]
  · exact Report.warned_warn ..

variable (a : DependencyAlignment)

/-- A demand that clashes is fatal under the one setting and a warning under the other. -/
theorem demand_escalates (r : Reactor) (s : Evaluation) (site : Site) (name target : String)
    (explicit : Bool) :
    Escalates x.kind s.report (fun y => y.2.report)
      ((x.alignment true a).evaluator.demand r s site name target explicit)
      ((x.alignment false a).evaluator.demand r s site name target explicit) := by
  simp only [Evaluator.demand]
  split
  · exact .ok rfl
  · split
    · exact .ok rfl
    · apply Escalates.guarded .propertyClash
      · cases x <;> simp [FatalSwitch.kind, alignment, set, DependencyAlignment.evaluator]
      · exact Report.warned_warn ..

theorem warned_warnMismatch (r : Reactor) (report : Report) (m : PropertyLedger.Mismatch)
    (kind : WarningKind) :
    (PropertyLedger.warnMismatch r report m).warned kind =
      (report.warned kind || .propertyValidation == kind) :=
  Report.warned_warn ..

/-- On the level of warnings a mismatch is warned of, so that on the fatal level the first one is
the error. -/
theorem validate_escalates (ledger : PropertyLedger) (r : Reactor) (report : Report) :
    Escalates x.kind report Prod.snd
      (ledger.validate r (x.alignment true a).config.propertyValidation report)
      (ledger.validate r (x.alignment false a).config.propertyValidation report) := by
  have hother : ∀ level, x.kind ≠ .propertyValidation →
      Escalates x.kind report Prod.snd (ledger.validate r level report)
        (ledger.validate r level report) := by
    intro level hne
    apply Escalates.same
    rintro ⟨n, report'⟩ hreport
    cases level with
    | off =>
      cases hreport
      rfl
    | warn =>
      cases hreport
      apply Report.warned_foldl (fun report => report)
      intro report m
      simp [warned_warnMismatch, hne.symm]
    | fail =>
      simp only [PropertyLedger.validate] at hreport
      split at hreport
      · cases hreport
        rfl
      · cases hreport
  cases x with
  | strictViolation => exact hother _ (by decide)
  | propertyClash => exact hother _ (by decide)
  | propertyValidation =>
    simp only [alignment, set, if_true, Bool.false_eq_true, if_false, PropertyLedger.validate]
    cases ledger.mismatches r with
    | nil => exact .ok rfl
    | cons m later =>
      apply Escalates.raised
      have hkeeps : ∀ (ms : List PropertyLedger.Mismatch) (report : Report),
          report.warned .propertyValidation = true →
          (ms.foldl (PropertyLedger.warnMismatch r) report).warned .propertyValidation = true := by
        intro ms
        induction ms with
        | nil => exact fun _ h => h
        | cons m ms ih =>
          intro report h
          apply ih
          simp [warned_warnMismatch, h]
      exact hkeeps later _ (by simp [warned_warnMismatch])

/-! ## Declarations and declared parents -/

theorem move_escalates (r : Reactor) (s : Evaluation) (site : Site) (old target : String)
    (explicit : Bool) :
    Escalates x.kind s.report (fun y => y.2.report)
      ((x.alignment true a).evaluator.move r s site old target explicit)
      ((x.alignment false a).evaluator.move r s site old target explicit) := by
  have hliteral : (x.alignment true a).evaluator.literal old target =
      (x.alignment false a).evaluator.literal old target := by
    cases x <;> rfl
  rw [Evaluator.move, Evaluator.move, hliteral]
  split
  · exact x.demand_escalates ..
  · exact .ok rfl

/-- The evaluation of override entries under the two settings. -/
theorem evaluate_escalates (r : Reactor) (s : Evaluation) (site : Site)
    (entries : List OverrideEntry) (rules : ExplicitRules) :
    Escalates x.kind s.report (fun y => y.2.report)
      ((x.alignment true a).evaluator.evaluate r s site entries rules)
      ((x.alignment false a).evaluator.evaluate r s site entries rules) := by
  have hempty : WarningKind.emptyOverride ≠ x.kind := by
    cases x <;> decide
  have hstrict : ∀ fatal, (x.alignment fatal a).evaluator.strict = x.policy fatal a.strict :=
    fun _ => rfl
  simp only [Evaluator.evaluate, hstrict, choose?_policy]
  split
  · exact .ok (Report.warned_warn_of_ne _ hempty _ _)
  · split
    · exact .ok rfl
    · split
      · exact .ok rfl
      · split
        · exact .ok rfl
        · split
          · exact x.move_escalates ..
          · exact (x.violation_escalates ..).map fun _ => rfl

theorem evaluateExplicit_escalates (r : Reactor) (s : Evaluation) (site : Site)
    (version : String) :
    Escalates x.kind s.report (fun y => y.2.report)
      ((x.alignment true a).evaluator.evaluateExplicit r s site version)
      ((x.alignment false a).evaluator.evaluateExplicit r s site version) := by
  rw [Evaluator.evaluateExplicit, Evaluator.evaluateExplicit]
  split
  · exact .ok rfl
  · split
    · exact .ok rfl
    · exact x.move_escalates ..

def stateReport (s : DependencyAlignment.State) : Report :=
  s.progress.report

open DependencyAlignment

theorem perform_escalates (site : Site) (s : State) {fatal lenient : Evaluation → Evaluated}
    (h : ∀ e, Escalates x.kind e.report (fun y => y.2.report) (fatal e) (lenient e)) :
    Escalates x.kind (stateReport s) stateReport (perform site s fatal)
      (perform site s lenient) := by
  rw [perform, perform]
  refine (h { ledger := s.ledger, report := s.progress.report }).bind ?_
  rintro ⟨step, after⟩
  apply Escalates.ok
  cases step <;> rfl

theorem alignDeclaration_escalates (v : Visit) (s : State) (d : Declaration) :
    Escalates x.kind (stateReport s) stateReport ((x.alignment true a).alignDeclaration v s d)
      ((x.alignment false a).alignDeclaration v s d) := by
  rw [alignDeclaration, alignDeclaration]
  dsimp only
  split
  · split
    · exact .ok rfl
    · exact x.perform_escalates _ _ fun _ => x.evaluateExplicit_escalates ..
  · refine (x.perform_escalates _ _ fun _ => x.evaluate_escalates ..).bind ?_
    intro s₁
    split
    · exact .ok rfl
    · exact x.perform_escalates _ _ fun _ => x.evaluateExplicit_escalates ..

theorem parentTarget_escalates (v : Visit) (p : Progress) (parent : Parent) :
    Escalates x.kind p.report Prod.snd ((x.alignment true a).parentTarget v p parent)
      ((x.alignment false a).parentTarget v p parent) := by
  have hstrict : ∀ fatal, (x.alignment fatal a).strict = x.policy fatal a.strict := fun _ => rfl
  simp only [parentTarget, hstrict, choose?_policy]
  split
  · exact .ok rfl
  · split
    · exact .ok rfl
    · exact (x.violation_escalates ..).map fun _ => rfl

theorem alignParent_escalates (v : Visit) (p : Progress) :
    Escalates x.kind p.report Progress.report ((x.alignment true a).alignParent v p)
      ((x.alignment false a).alignParent v p) := by
  rw [alignParent, alignParent]
  split
  · exact .ok rfl
  · refine (x.parentTarget_escalates ..).bind ?_
    rintro ⟨target, report⟩
    dsimp only
    split
    · exact .ok rfl
    · split
      · exact .ok rfl
      · exact .ok rfl

/-! ## The whole run -/

theorem warned_inject (v : Visit) (managed : KeySet Artifact) (p : Progress) (kind : WarningKind) :
    (inject v managed p).report.warned kind = p.report.warned kind := by
  apply Report.warned_foldl Progress.report
  intro p d
  rfl

theorem alignBody_escalates (v : Visit) (isRoot : Bool) (s : State) (p : Progress) :
    Escalates x.kind p.report stateReport ((x.alignment true a).alignBody v isRoot s p)
      ((x.alignment false a).alignBody v isRoot s p) := by
  have hinjects : ∀ fatal, (x.alignment fatal a).injects = a.injects := by
    intro fatal
    cases x <;> rfl
  rw [alignBody, alignBody, hinjects, hinjects]
  refine (Escalates.foldlM (x.alignDeclaration_escalates a v) _ { s with progress := p }).bind ?_
  intro s₁
  split
  · exact .ok (warned_inject ..)
  · exact .ok rfl

theorem alignModule_escalates (merged : OverrideMap) (s : State) (id : Nat) :
    Escalates x.kind (stateReport s) stateReport ((x.alignment true a).alignModule merged s id)
      ((x.alignment false a).alignModule merged s id) := by
  have hvisit : ∀ fatal, (x.alignment fatal a).visitUnder = a.visitUnder := fun _ => rfl
  rw [alignModule_eq, alignModule_eq, hvisit, hvisit]
  split
  · exact (x.alignParent_escalates ..).bind fun p => x.alignBody_escalates a _ _ s p
  · exact x.alignBody_escalates a _ _ s s.progress

/-- Properties that are declared nowhere are warned of, in one way. -/
theorem warned_flush (ledger : PropertyLedger) (p : Progress) {kind : WarningKind}
    (hne : .unresolvedProperty ≠ kind) :
    (ledger.flush p).report.warned kind = p.report.warned kind := by
  apply Report.warned_foldl Progress.report
  rintro p ⟨owner, m⟩
  simp only [PropertyLedger.write]
  split
  · split <;> rfl
  · split <;> exact Report.warned_warn_of_ne _ hne _ _

theorem settle_escalates (s : State) :
    Escalates x.kind (stateReport s) Progress.report ((x.alignment true a).settle s)
      ((x.alignment false a).settle s) := by
  refine (x.validate_escalates a s.ledger s.progress.reactor s.progress.report).map ?_
  rintro ⟨n, report⟩
  apply warned_flush
  cases x <;> decide

theorem gather_escalates (p : Progress) :
    Escalates x.kind p.report stateReport ((x.alignment true a).gather p)
      ((x.alignment false a).gather p) := by
  have hwarnIgnored : ∀ fatal, (x.alignment fatal a).warnIgnored = a.warnIgnored := by
    intro fatal
    cases x <;> rfl
  have hoverrides : ∀ fatal, (x.alignment fatal a).overridesFor = a.overridesFor := by
    intro fatal
    cases x <;> rfl
  have hignored : (a.warnIgnored p).report.warned x.kind = p.report.warned x.kind := by
    rw [warnIgnored]
    split
    · exact Report.warned_warn_of_ne _ (by cases x <;> decide) _ _
    · rfl
  rw [gather, gather, hwarnIgnored, hwarnIgnored, hoverrides, hoverrides]
  exact (Escalates.foldlM (x.alignModule_escalates a (a.overridesFor p.reactor)) p.reactor.order
    { progress := a.warnIgnored p }).restart hignored

/-- Two whole alignments that differ in the setting alone. -/
theorem run_escalates (p : Progress) :
    Escalates x.kind p.report Progress.report ((x.alignment true a).run p)
      ((x.alignment false a).run p) := by
  have hoverrides : ∀ fatal, (x.alignment fatal a).overridesFor = a.overridesFor := by
    intro fatal
    cases x <;> rfl
  have hrules : ∀ fatal, (x.alignment fatal a).rules = a.rules := fun _ => rfl
  have hbegun : ∀ fatal, (x.alignment fatal a).begun = a.begun := by
    intro fatal
    cases x <;> rfl
  have hwarned : (a.begun p).report.warned x.kind = p.report.warned x.kind := by
    rw [begun]
    split
    · exact Report.warned_warn_of_ne _ (by cases x <;> decide) _ _
    · rfl
  rw [run_eq, run_eq, hoverrides, hoverrides, hrules, hrules, hbegun, hbegun]
  apply Escalates.restart _ hwarned
  split
  · exact .ok rfl
  · exact (x.gather_escalates a _).bind (x.settle_escalates a)

end FatalSwitch

end BuildAlign
