import BuildAlign.Pass
import BuildAlign.Proofs.Alignment.Phases
import BuildAlign.Proofs.Pass.Accounts
import BuildAlign.Proofs.Satisfies

/-!
The report of a pass is complete. Every stage records what it writes, so the changes of a whole pass
account for the difference between the reactor at the start and the one at the end, whatever the
stages are and however often they run.
-/

namespace BuildAlign

/-! ## Versions -/

namespace VersionChanges

theorem commitEdit_recorded (p : Progress) (e : Edit) : Recorded p (commitEdit p e) := by
  obtain ⟨module, site, new⟩ := e
  cases site with
  | own => exact .edit (.setVersion _ rfl rfl)
  | parent => exact .edit (.setParentVersion _ rfl rfl)
  | entry address artifact => exact .edit (.setSlot _ address new)

theorem commitProperty_recorded (p : Progress) (item : PropertySlot × String) :
    Recorded p (commitProperty p item) :=
  .edit (.setProperty _ item.1.scope rfl rfl)

theorem Plan.changes_push (plan : Plan) (r : Reactor) (raw : String) (edit : Edit) :
    (plan.push r raw edit).report.changes = plan.report.changes := by
  rw [Plan.push]
  split
  · rfl
  · split
    · rfl
    · split <;> rfl

theorem Plan.changes_pushOwn (plan : Plan) (changes : VersionChanges) (r : Reactor) (id : Nat) :
    (plan.pushOwn changes r id).report.changes = plan.report.changes := by
  rw [Plan.pushOwn]
  split
  · rfl
  · dsimp only
    split
    · exact changes_push ..
    · split <;> rfl

theorem Plan.changes_visit (changes : VersionChanges) (r : Reactor) (plan : Plan) (id : Nat) :
    (plan.visit changes r id).report.changes = plan.report.changes := by
  have hpushAll : ∀ (edits : List (String × Edit)) (plan : Plan),
      (edits.foldl (fun plan e => plan.push r e.1 e.2) plan).report.changes =
        plan.report.changes := by
    intro edits
    induction edits with
    | nil => exact fun _ => rfl
    | cons e later ih => exact fun plan => (ih _).trans (changes_push ..)
  simp only [Plan.visit]
  rw [hpushAll, changes_pushOwn, hpushAll]

theorem apply_recorded (changes : VersionChanges) (r : Reactor) (report : Report) :
    Recorded { reactor := r, report } (changes.apply r report) := by
  have hvisit : ∀ (ids : List Nat) (plan : Plan),
      (ids.foldl (Plan.visit changes r) plan).report.changes = plan.report.changes := by
    intro ids
    induction ids with
    | nil => exact fun _ => rfl
    | cons id later ih => exact fun plan => (ih _).trans (Plan.changes_visit ..)
  rw [apply]
  split
  · exact .refl _
  · refine Recorded.trans ?_ (.foldl commitProperty_recorded _ _)
    refine Recorded.trans ?_ (.foldl commitEdit_recorded _ _)
    exact .of_eq rfl (hvisit r.order { report })

end VersionChanges

theorem VersioningConfig.run_recorded (c : VersioningConfig) (candidates : Candidates)
    (p : Progress) : Recorded p (c.run candidates p) := by
  rw [run]
  split
  · exact .refl p
  · exact (Recorded.of_eq rfl rfl).trans (VersionChanges.apply_recorded ..)

/-! ## Dependencies -/

namespace Evaluator

variable (e : Evaluator) (r : Reactor) (s : Evaluation) (site : Site)

theorem violation_changes (strict : StrictPolicy) (report : Report) (module artifact : Artifact)
    (kind : ReferenceKind) (present candidate : String) :
    Satisfies (fun report' => report'.changes = report.changes) (fun _ => True)
      (strict.violation report module artifact kind present candidate) := by
  rw [StrictPolicy.violation]
  split
  · trivial
  · exact rfl

theorem move_changes (old target : String) (explicit : Bool) :
    Satisfies (fun x => x.2.report.changes = s.report.changes) (fun _ => True)
      (e.move r s site old target explicit) := by
  rw [move]
  split
  · simp only [demand]
    split
    · exact rfl
    · split
      · exact rfl
      · split
        · trivial
        · exact rfl
  · exact rfl

/-- An evaluation writes nothing. -/
theorem evaluate_changes (entries : List OverrideEntry) (rules : ExplicitRules) :
    Satisfies (fun x => x.2.report.changes = s.report.changes) (fun _ => True)
      (e.evaluate r s site entries rules) := by
  rw [evaluate]
  split
  · exact rfl
  · split
    · exact rfl
    · split
      · exact rfl
      · split
        · exact rfl
        · dsimp only
          split
          · exact e.move_changes ..
          · exact (violation_changes ..).map fun _ h => h

theorem evaluateExplicit_changes (version : String) :
    Satisfies (fun x => x.2.report.changes = s.report.changes) (fun _ => True)
      (e.evaluateExplicit r s site version) := by
  rw [evaluateExplicit]
  split
  · exact rfl
  · split
    · exact rfl
    · exact e.move_changes ..

end Evaluator

namespace PropertyLedger

theorem write_recorded (p : Progress) (m : PropertyMapping) : Recorded p (write p m) := by
  have hset : ∀ p : Progress, Recorded p
      (p.edit (p.reactor.setProperty m.module (m.scope.getD .main) m.name m.new) m.module
        (p.reactor.artifact m.module) (.property m.name)
        ((p.reactor.module m.module).property? (m.scope.getD .main) m.name) (some m.new)) :=
    fun p => .edit (.setProperty p.reactor _ rfl rfl)
  simp only [write]
  -- a property that is not declared is warned of before it is written
  split
  · split
    · exact .refl p
    · exact hset p
  · split
    · exact .of_eq rfl rfl
    · exact Recorded.trans (.of_eq rfl rfl) (hset (p.warn ..))

/-- Validation warns or fails, and changes nothing. -/
theorem validate_changes (ledger : PropertyLedger) (r : Reactor) (level : ValidationLevel)
    (report : Report) :
    Satisfies (fun x => x.2.changes = report.changes) (fun _ => True)
      (ledger.validate r level report) := by
  have hwarn : ∀ (ms : List Mismatch) (report : Report),
      (ms.foldl (warnMismatch r) report).changes = report.changes := by
    intro ms
    induction ms with
    | nil => exact fun _ => rfl
    | cons m later ih => exact fun report => ih (warnMismatch r report m)
  cases level with
  | off => exact rfl
  | warn => exact hwarn ..
  | fail =>
    rw [validate]
    split
    · exact rfl
    · trivial

end PropertyLedger

namespace DependencyAlignment

variable (a : DependencyAlignment)

theorem parentTarget_changes (v : Visit) (p : Progress) (parent : Parent) :
    Satisfies (fun x => x.2.changes = p.report.changes) (fun _ => True)
      (a.parentTarget v p parent) := by
  simp only [parentTarget]
  split
  · exact rfl
  · split
    · exact rfl
    · exact (Evaluator.violation_changes ..).map fun _ h => h

theorem alignParent_recorded (v : Visit) (p : Progress) :
    Satisfies (Recorded p) (fun _ => True) (a.alignParent v p) := by
  rw [alignParent]
  split
  · exact Recorded.refl p
  · rename_i parent hparent
    refine (a.parentTarget_changes v p parent).bind fun x hx => ?_
    have hreported : Recorded p { p with report := x.2 } := .of_eq rfl hx
    dsimp only
    split
    · exact hreported
    · split
      · exact hreported
      · exact hreported.trans (.edit (.setParentVersion _ rfl rfl))

theorem applyStep_recorded (site : Site) (p : Progress) (step : Step) :
    Recorded p (applyStep site p step) := by
  have htallied : Recorded p { p with report := p.report.tally step.outcome } := .of_eq rfl rfl
  cases step with
  | done o => exact htallied
  | replace version => exact htallied.trans (.edit (.setSlot _ site.declaration.address version))

theorem perform_recorded (site : Site) (s : State) {evaluate : Evaluation → Evaluated}
    (hevaluate : ∀ x, Satisfies (fun y => y.2.report.changes = x.report.changes) (fun _ => True)
      (evaluate x)) :
    Satisfies (fun s' => Recorded s.progress s'.progress) (fun _ => True)
      (perform site s evaluate) := by
  refine (hevaluate _).bind fun x hx => ?_
  have hevaluated : Recorded s.progress { s.progress with report := x.2.report } := .of_eq rfl hx
  exact hevaluated.trans (applyStep_recorded site _ x.1)

theorem alignForced_recorded (v : Visit) (site : Site) {s s' : State}
    (h : Recorded s.progress s'.progress) :
    Satisfies (fun s' => Recorded s.progress s'.progress) (fun _ => True)
      (match v.rules.versionFor? site.artifact with
      | none => pure s'
      | some version =>
        perform site s' (a.evaluator.evaluateExplicit s'.progress.reactor · site version)) := by
  split
  · exact h
  · refine (perform_recorded site s' fun _ => a.evaluator.evaluateExplicit_changes ..).mono ?_
    exact fun _ h' => h.trans h'

theorem alignDeclaration_recorded (v : Visit) (s : State) (d : Declaration) :
    Satisfies (fun s' => Recorded s.progress s'.progress) (fun _ => True)
      (a.alignDeclaration v s d) := by
  rw [alignDeclaration]
  dsimp only
  split
  · exact a.alignForced_recorded v _ (.refl s.progress)
  · refine (perform_recorded _ s fun _ => a.evaluator.evaluate_changes ..).bind ?_
    exact fun _ h => a.alignForced_recorded v _ h

theorem inject_recorded (v : Visit) (managed : KeySet Artifact) (p : Progress) :
    Recorded p (inject v managed p) := by
  apply Recorded.editAll
  intro c hc
  rw [← hc]
  exact .modifyBody p.reactor .main fun _ => rfl

/-- A visit, in all its parts: the parent, the declarations and the added dependencies. -/
theorem alignModule_recorded (merged : OverrideMap) (s : State) (id : Nat) :
    Satisfies (fun s' => Recorded s.progress s'.progress) (fun _ => True)
      (a.alignModule merged s id) := by
  rw [alignModule_eq]
  have hparent : Satisfies (Recorded s.progress) (fun _ => True)
      (if s.progress.reactor.isRoot id then
        a.alignParent (a.visitUnder merged id (s.progress.reactor.artifact id)) s.progress
      else pure s.progress) := by
    split
    · exact a.alignParent_recorded ..
    · exact Recorded.refl s.progress
  refine hparent.bind fun p hp => ?_
  have hdeclarations : ∀ v : Visit, Satisfies (fun s' => Recorded s.progress s'.progress)
      (fun _ => True)
      ((p.reactor.module v.module).declarations.foldlM (a.alignDeclaration v)
        { s with progress := p }) := by
    intro v
    refine Satisfies.foldlM (I := fun _ (s' : State) => Recorded s.progress s'.progress) hp ?_
    intro d later s' hs'
    exact (a.alignDeclaration_recorded v s' d).mono fun _ h => hs'.trans h
  rw [alignBody]
  refine (hdeclarations _).bind fun s' hs' => ?_
  split
  · exact hs'.trans (inject_recorded ..)
  · exact hs'

theorem run_recorded (p : Progress) : Satisfies (Recorded p) (fun _ => True) (a.run p) := by
  have hbegun : Recorded p (a.begun p) := by
    rw [begun]
    split <;> exact .of_eq rfl rfl
  rw [run_eq]
  split
  · exact hbegun
  · have hignored : Recorded p (a.warnIgnored (a.begun p)) := by
      refine hbegun.trans ?_
      rw [warnIgnored]
      split <;> exact .of_eq rfl rfl
    have hgather : Satisfies (fun s => Recorded p s.progress) (fun _ => True)
        (a.gather (a.begun p)) := by
      refine Satisfies.foldlM (I := fun _ (s : State) => Recorded p s.progress) hignored ?_
      intro id later s hs
      exact (a.alignModule_recorded _ s id).mono fun _ h => hs.trans h
    refine hgather.bind fun s hs => ?_
    refine (PropertyLedger.validate_changes ..).map fun x hx => ?_
    have hvalidated : Recorded s.progress { s.progress with report := x.2 } := .of_eq rfl hx
    exact (hs.trans hvalidated).trans (.foldl PropertyLedger.write_recorded _ _)

end DependencyAlignment

/-! ## The other stages -/

theorem PropertyInjection.run_recorded (properties : Properties) (p : Progress) :
    Recorded p (run properties p) := by
  apply Recorded.foldl
  intro p item
  rw [inject]
  split
  · exact .refl p
  · exact .edit (.setProperty _ .main rfl rfl)

theorem PluginRemoval.run_recorded (plugins : List String) (p : Progress) :
    Satisfies (Recorded p) (fun _ => True) (run plugins p) := by
  rw [run]
  cases targets plugins with
  | error e => trivial
  | ok targets =>
    apply Recorded.foldl
    intro p id
    apply Recorded.foldl
    intro p scope
    apply Recorded.editAll
    rintro c rfl
    exact .modifyBody p.reactor scope fun _ => rfl

theorem ProfileRemoval.run_recorded (profiles : List String) (p : Progress) :
    Recorded p (run profiles p) := by
  apply Recorded.foldl
  intro p id
  apply Recorded.editAll
  rintro c rfl
  refine Accounts.of_modify _ _ (fun m => ⟨rfl, rfl, rfl, rfl, rfl⟩) fun m cell => ?_
  -- what is left of a module without its profiles has the same cells
  cases cell <;> exact .inl rfl

theorem ProjectVersion.run_recorded (p : Progress) : Recorded p (run p) := by
  apply Recorded.foldl
  intro p id
  rw [replaceModule]
  split
  · exact .refl p
  · refine Recorded.trans (.foldl (fun p d => ?_) _ p) (.foldl (fun p item => ?_) _ _)
    · exact .edit (.setSlot _ d.address _)
    · exact .edit (.setProperty _ item.1 rfl rfl)

/-! ## The whole pass -/

/-- Every stage reports all that it changes, or fails. -/
theorem Stage.run_recorded (c : Config) (inputs : PassInputs) (x : PassRules) (p : Progress)
    (stage : Stage) : Satisfies (Recorded p) (fun _ => True) (stage.run c inputs x p) := by
  cases stage with
  | versioning => exact VersioningConfig.run_recorded ..
  | dependencies => exact DependencyAlignment.run_recorded ..
  | propertyInjection => exact PropertyInjection.run_recorded ..
  | pluginRemoval =>
    have hrun := PluginRemoval.run_recorded c.removal.plugins p
    rw [run]
    cases hremoved : PluginRemoval.run c.removal.plugins p with
    | error e => trivial
    | ok p' => rwa [hremoved] at hrun
  | profileRemoval => exact ProfileRemoval.run_recorded ..
  | enforceProjectVersion =>
    simp only [run]
    split
    · exact ProjectVersion.run_recorded p
    · exact Recorded.refl p

theorem align_accounts (c : Config) (inputs : PassInputs) (r : Reactor) :
    Satisfies (fun p => Accounts p.report.changes r p.reactor) (fun _ => True)
      (align c inputs r) := by
  rw [align]
  cases PassRules.read c inputs.sources.extra with
  | error e => trivial
  | ok x =>
    refine (Satisfies.foldlM (I := fun _ p => Recorded { reactor := r, report := {} } p)
      (.refl _) ?_).mono ?_
    · intro stage later p hp
      have hrestarted : Recorded p p.restart := .of_eq rfl rfl
      exact (stage.run_recorded c inputs x p.restart).mono fun _ h => (hp.trans hrestarted).trans h
    · rintro p ⟨added, hchanges, haccounts⟩
      rw [hchanges]
      exact haccounts

/-- A module that no change names is the same before and after a pass, and every version, parent
version or main property that differs has its final value from a change that the report holds. -/
theorem report_complete {c : Config} {inputs : PassInputs} {r : Reactor} {p : Progress}
    (h : align c inputs r = .ok p) :
    p.reactor.size = r.size ∧
      (∀ id, (∀ change ∈ p.report.changes, change.module ≠ id) →
        p.reactor.module id = r.module id) ∧
      ∀ (id : Nat) (cell : Cell),
        cell.value? (p.reactor.module id) ≠ cell.value? (r.module id) →
        ∃ value, cell.value? (p.reactor.module id) = some value ∧
          ∃ change ∈ p.report.changes, change.Reports id cell value := by
  have haccounts : Accounts p.report.changes r p.reactor := by
    have := align_accounts c inputs r
    rwa [h] at this
  refine ⟨haccounts.size, haccounts.unnamed, fun id cell hne => ?_⟩
  exact (haccounts.cells id cell).resolve_left hne

/-- Two rounds of new build numbers, with an injection of properties between them. -/
def twoRounds : Config where
  versioning := { incrementalSuffix := some "redhat" }
  stages := [.versioning, .propertyInjection, .versioning]

/-- One module that nothing is known of but its coordinate. -/
def bareModule : Reactor where
  modules := [{ group := some "org.app", name := "app", version := some "1.0" }]
  forest := Reactor.forest_of_checks (by simp) (by decide) (by decide)

theorem report_complete_twoRounds :
    ∃ p, align twoRounds { properties := Table.ofList [("revision", "7")] } bareModule = .ok p ∧
      (∃ change ∈ p.report.changes, change.Reports 0 .ownVersion "1.0.0.redhat-2") ∧
      ∃ change ∈ p.report.changes, change.Reports 0 (.property "revision") "7" := by
  have hrun : align twoRounds { properties := Table.ofList [("revision", "7")] } bareModule =
      .ok ((align twoRounds { properties := Table.ofList [("revision", "7")] }
        bareModule).toOption.getD { reactor := bareModule, report := {} }) := by
    decide +kernel
  have hreported := (report_complete hrun).2.2
  refine ⟨_, hrun, ?_, ?_⟩
  · obtain ⟨value, hvalue, hchange⟩ := hreported 0 .ownVersion (by decide +kernel)
    obtain rfl : value = "1.0.0.redhat-2" :=
      Option.some.inj (hvalue.symm.trans (by decide +kernel))
    exact hchange
  · obtain ⟨value, hvalue, hchange⟩ := hreported 0 (.property "revision") (by decide +kernel)
    obtain rfl : value = "7" := Option.some.inj (hvalue.symm.trans (by decide +kernel))
    exact hchange

end BuildAlign
