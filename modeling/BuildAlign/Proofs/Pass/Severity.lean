import BuildAlign.Pass
import BuildAlign.Proofs.Alignment.FatalSwitch

/-!
Severity over a whole pass. Apart from the alignment of dependencies no stage has to do with the
problems that can be made fatal: all other warnings are of properties that are not declared. So a
pass with a fatal setting succeeds exactly when the pass with the lenient one does without such a
warning, with the same reactor and the same report.
-/

namespace BuildAlign

/-! ## The other stages -/

section

variable {kind : WarningKind} (hne : .unresolvedProperty ≠ kind)

namespace VersionChanges

include hne

theorem warned_push (plan : Plan) (r : Reactor) (raw : String) (edit : Edit) :
    (plan.push r raw edit).report.warned kind = plan.report.warned kind := by
  rw [Plan.push]
  split
  · rfl
  · split
    · rfl
    · split
      · exact Report.warned_warn_of_ne _ hne _ _
      · rfl

theorem warned_pushOwn (plan : Plan) (changes : VersionChanges) (r : Reactor) (id : Nat) :
    (plan.pushOwn changes r id).report.warned kind = plan.report.warned kind := by
  rw [Plan.pushOwn]
  split
  · rfl
  · dsimp only
    split
    · exact warned_push hne ..
    · split <;> rfl

theorem warned_visit (changes : VersionChanges) (r : Reactor) (plan : Plan) (id : Nat) :
    (plan.visit changes r id).report.warned kind = plan.report.warned kind := by
  have hpushAll : ∀ (edits : List (String × Edit)) (plan : Plan),
      (edits.foldl (fun plan e => plan.push r e.1 e.2) plan).report.warned kind =
        plan.report.warned kind := by
    intro edits plan
    apply Report.warned_foldl Plan.report
    intro plan e
    exact warned_push hne ..
  simp only [Plan.visit]
  rw [hpushAll, warned_pushOwn hne, hpushAll]

/-- Version changes warn of other kinds only. -/
theorem warned_apply (changes : VersionChanges) (r : Reactor) (report : Report) :
    (changes.apply r report).report.warned kind = report.warned kind := by
  have hcommitProperty : ∀ (items : List (PropertySlot × String)) (p : Progress),
      (items.foldl commitProperty p).report.warned kind = p.report.warned kind :=
    Report.warned_foldl Progress.report fun _ _ => rfl
  have hcommitEdit : ∀ (edits : List Edit) (p : Progress),
      (edits.foldl commitEdit p).report.warned kind = p.report.warned kind := by
    apply Report.warned_foldl Progress.report
    rintro p ⟨module, site, new⟩
    cases site <;> rfl
  have hvisit : ∀ (ids : List Nat) (plan : Plan),
      (ids.foldl (Plan.visit changes r) plan).report.warned kind = plan.report.warned kind :=
    Report.warned_foldl Plan.report (warned_visit hne changes r)
  rw [apply]
  split
  · rfl
  · dsimp only
    rw [hcommitProperty, hcommitEdit, hvisit]

end VersionChanges

include hne in
theorem VersioningConfig.warned_run (c : VersioningConfig) (candidates : Candidates)
    (p : Progress) : (c.run candidates p).report.warned kind = p.report.warned kind := by
  rw [run]
  split
  · rfl
  · exact VersionChanges.warned_apply hne ..

end

section

variable (kind : WarningKind)

theorem PropertyInjection.warned_run (properties : Properties) (p : Progress) :
    (run properties p).report.warned kind = p.report.warned kind := by
  apply Report.warned_foldl Progress.report
  intro p item
  rw [inject]
  split <;> rfl

theorem PluginRemoval.warned_run {plugins : List String} {p p' : Progress}
    (h : (run plugins p).mapError AlignError.config = .ok p') :
    p'.report.warned kind = p.report.warned kind := by
  rw [run] at h
  cases htargets : targets plugins with
  | error e =>
    rw [htargets] at h
    cases h
  | ok targets =>
    rw [htargets] at h
    obtain rfl : p.reactor.ids.foldl (removeModule targets) p = p' := Except.ok.inj h
    apply Report.warned_foldl Progress.report
    intro p id
    apply Report.warned_foldl Progress.report
    intro p scope
    apply Report.warned_foldl Progress.report
    intro p plugin
    rfl

theorem ProfileRemoval.warned_run (profiles : List String) (p : Progress) :
    (run profiles p).report.warned kind = p.report.warned kind := by
  apply Report.warned_foldl Progress.report
  intro p id
  apply Report.warned_foldl Progress.report
  intro p profile
  rfl

theorem ProjectVersion.warned_run (p : Progress) :
    (run p).report.warned kind = p.report.warned kind := by
  apply Report.warned_foldl Progress.report
  intro p id
  have hslots : ∀ (artifact : Artifact) (version : String) (ds : List Declaration) (p : Progress),
      (ds.foldl (replaceSlot id artifact version) p).report.warned kind = p.report.warned kind :=
    fun _ _ => Report.warned_foldl Progress.report fun _ _ => rfl
  have hproperties : ∀ (artifact : Artifact) (version : String) (items : List (Scope × String))
      (p : Progress), (items.foldl (replaceProperty id artifact version) p).report.warned kind =
        p.report.warned kind :=
    fun _ _ => Report.warned_foldl Progress.report fun _ _ => rfl
  rw [replaceModule]
  split
  · rfl
  · dsimp only
    rw [hproperties, hslots]

end

/-! ## The whole pass -/

namespace FatalSwitch

def configure (fatal : Bool) (c : Config) (x : FatalSwitch) : Config :=
  { c with alignment := x.set fatal c.alignment }

variable (x : FatalSwitch) (c : Config)

def adjust (fatal : Bool) (rules : PassRules) : PassRules :=
  { rules with strict := x.policy fatal rules.strict }

theorem ofConfig_configure (fatal : Bool) :
    StrictPolicy.ofConfig (x.configure fatal c) =
      (StrictPolicy.ofConfig c).map (x.policy fatal) := by
  have hsuffix : StrictPolicy.suffixOf (x.configure fatal c) = StrictPolicy.suffixOf c := by
    cases x <;> rfl
  rw [StrictPolicy.ofConfig, StrictPolicy.ofConfig, hsuffix]
  cases StrictPolicy.suffixOf c with
  | error e => rfl
  | ok suffix => cases x <;> rfl

theorem read_configure (fatal : Bool) (extra : Table String OverrideMap) :
    PassRules.read (x.configure fatal c) extra =
      (PassRules.read c extra).map (x.adjust fatal) := by
  have hoverrides : (x.configure fatal c).alignment.overrides = c.alignment.overrides := by
    cases x <;> rfl
  rw [PassRules.read, PassRules.read, ofConfig_configure, hoverrides]
  cases StrictPolicy.ofConfig c with
  | error e => rfl
  | ok strict =>
    cases ExplicitRules.parse c.alignment.overrides extra <;> rfl

/-- Only the alignment looks at the setting. The other stages are the same on both sides and warn of
other kinds. -/
theorem stage_escalates (inputs : PassInputs) (rules : PassRules) (stage : Stage) (p : Progress) :
    Escalates x.kind p.report Progress.report
      (stage.run (x.configure true c) inputs (x.adjust true rules) p)
      (stage.run (x.configure false c) inputs (x.adjust false rules) p) := by
  have hunresolved : .unresolvedProperty ≠ x.kind := by
    cases x <;> decide
  cases stage with
  | versioning => exact .ok (VersioningConfig.warned_run hunresolved ..)
  | dependencies =>
    exact x.run_escalates
      { config := c.alignment, strict := rules.strict, sources := inputs.sources,
        rules := rules.rules } p
  | propertyInjection => exact .ok (PropertyInjection.warned_run ..)
  | pluginRemoval =>
    apply Escalates.same
    exact fun p' hp' => PluginRemoval.warned_run x.kind hp'
  | profileRemoval => exact .ok (ProfileRemoval.warned_run ..)
  | enforceProjectVersion =>
    have henforce : ∀ fatal, (x.configure fatal c).alignment.enforceProjectVersion =
        c.alignment.enforceProjectVersion := by
      intro fatal
      cases x <;> rfl
    simp only [Stage.run, henforce]
    apply Escalates.ok
    split
    · exact ProjectVersion.warned_run ..
    · rfl

end FatalSwitch

/-- A fatal setting only turns warnings into an abort: the pass succeeds exactly when the lenient one
does without a warning of the kind, and then they give the same reactor and the same report. -/
theorem align_fatal_iff (x : FatalSwitch) (c : Config) (inputs : PassInputs) (r : Reactor)
    (p : Progress) :
    align (x.configure true c) inputs r = .ok p ↔
      align (x.configure false c) inputs r = .ok p ∧ p.report.warned x.kind = false := by
  rw [align, align, x.read_configure, x.read_configure]
  cases PassRules.read c inputs.sources.extra with
  | error e => exact ⟨nofun, fun h => absurd h.1 nofun⟩
  | ok rules =>
    have hstages : ∀ p : Progress, Escalates x.kind p.report Progress.report
        (c.stages.foldlM (fun p stage =>
          stage.run (x.configure true c) inputs (x.adjust true rules) p.restart) p)
        (c.stages.foldlM (fun p stage =>
          stage.run (x.configure false c) inputs (x.adjust false rules) p.restart) p) := by
      apply Escalates.foldlM
      intro p stage
      exact x.stage_escalates c inputs rules stage p.restart
    exact (hstages { reactor := r, report := {} }).agrees rfl p

end BuildAlign
