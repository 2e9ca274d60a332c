import BuildAlign.Alignment.Dependencies
import BuildAlign.Proofs.Alignment.Mapping
import BuildAlign.Proofs.Alignment.Violation

/-!
What aligning one declaration does, and why. It leaves the reactor and the ledger alone, or demands
a value of the property that the declaration refers to, or replaces its version text. It does the
latter two only for a cause: an override entry that the guard against self-references and the strict
check let pass, or a version that explicit rules force. Only without such a version is there a
strict check.
-/

namespace BuildAlign

open Violation

namespace Evaluator

variable {P : Violation → Prop} (e : Evaluator) (r : Reactor) (s : Evaluation) (site : Site)

def demandOf (site : Site) (name target : String) (explicit : Bool) : Demand where
  module := site.module
  name
  new := target
  origin := site.artifact
  explicit

/-- What an evaluation asks for: nothing, or to move the declaration for a reason. -/
inductive Asks (why : String → String → Bool → Prop) : Step → PropertyLedger → Prop where
  | nothing (o : Outcome) : Asks why (.done o) s.ledger
  | demand {old name target : String} {explicit : Bool} (o : Outcome)
      (version : site.version? = some old) (property : propertyOf? old = some name)
      (cause : why old target explicit) :
      Asks why (.done o) (s.ledger.record r (demandOf site name target explicit)).2
  | literal {old target : String} {explicit : Bool} (version : site.version? = some old)
      (literal : propertyOf? old = none) (cause : why old target explicit) :
      Asks why (e.literal old target) s.ledger

/-- A demand leaves the version text alone and is recorded whether it is accepted or not. -/
theorem demand_spec (name target : String) (explicit : Bool) :
    Satisfies
      (fun x => (∃ o, x.1 = .done o) ∧
        x.2.ledger = (s.ledger.record r (demandOf site name target explicit)).2 ∧
        Reported P s.report x.2.report)
      (Raised P) (e.demand r s site name target explicit) := by
  have hrejected := PropertyLedger.record_of_not_isAccepted r s.ledger
    (demandOf site name target explicit)
  rw [demandOf] at hrejected ⊢
  rw [demand]
  generalize s.ledger.record r _ = result at hrejected ⊢
  obtain ⟨outcome, ledger⟩ := result
  dsimp only at hrejected ⊢
  split
  · exact ⟨⟨_, rfl⟩, rfl, reported_of_eq rfl⟩
  · rename_i hnot
    have hledger : s.ledger = ledger := (hrejected (by simpa using hnot)).symm
    split
    · exact ⟨⟨_, rfl⟩, hledger, reported_of_eq rfl⟩
    · split
      · intro x hx
        exact absurd hx nofun
      · exact ⟨⟨_, rfl⟩, hledger, reported_warn (by decide) _ _ _⟩

theorem move_spec {why : String → String → Bool → Prop} {old target : String} {explicit : Bool}
    (hversion : site.version? = some old) (hwhy : why old target explicit) :
    Satisfies (fun x => Asks e r s site why x.1 x.2.ledger ∧ Reported P s.report x.2.report)
      (Raised P) (e.move r s site old target explicit) := by
  rw [move]
  cases hproperty : propertyOf? old with
  | none => exact ⟨.literal hversion hproperty hwhy, reported_of_eq rfl⟩
  | some name =>
    refine (e.demand_spec r s site name target explicit).mono ?_
    rintro ⟨step, s'⟩ ⟨⟨o, rfl⟩, hledger, hreported⟩
    refine ⟨?_, hreported⟩
    rw [hledger]
    exact .demand o hversion hproperty hwhy

variable (entries : List OverrideEntry) (rules : ExplicitRules)

/-- Why an override entry moves a declaration. -/
structure Matched (old target : String) : Prop where
  guarded : isSelfReference r site.module old = false
  unforced : rules.versionFor? site.artifact = none
  chosen : e.strict.choose? (r.resolve site.module old) (candidateVersions entries) = some target

/-- What an evaluation against the override entries asks for. Where a rule forces a version, no
entry counts and no violation comes up. -/
theorem evaluate_spec {why : String → String → Bool → Prop}
    (hwhy : ∀ old target, e.Matched r site entries rules old target → why old target false)
    (hP : rules.versionFor? site.artifact = none → ∀ present candidate,
      P ⟨site.moduleArtifact, site.artifact, site.kind, present, candidate⟩) :
    Satisfies (fun x => Asks e r s site why x.1 x.2.ledger ∧ Reported P s.report x.2.report)
      (Raised P) (e.evaluate r s site entries rules) := by
  rw [evaluate]
  split
  · exact ⟨.nothing _, reported_warn (by decide) _ _ _⟩
  · rename_i first others hcandidates
    split
    · exact ⟨.nothing _, reported_of_eq rfl⟩
    · rename_i old hversion
      split
      · exact ⟨.nothing _, reported_of_eq rfl⟩
      · rename_i hguarded
        split
        · exact ⟨.nothing _, reported_of_eq rfl⟩
        · rename_i hunforced
          have hunforced : rules.versionFor? site.artifact = none := by simpa using hunforced
          dsimp only
          split
          · rename_i target hchosen
            have hmatched : e.Matched r site entries rules old target := by
              refine ⟨by simpa using hguarded, hunforced, ?_⟩
              rw [hcandidates, hchosen]
            exact e.move_spec r s site hversion (hwhy old target hmatched)
          · refine (violation_spec e.strict s.report (hP hunforced _ _)).map ?_
            exact fun report hreport => ⟨.nothing _, hreport.1⟩

theorem evaluateExplicit_spec {why : String → String → Bool → Prop} {version : String}
    (hwhy : ∀ old target, Text.nonBlank? version = some target → why old target true) :
    Satisfies (fun x => Asks e r s site why x.1 x.2.ledger ∧ Reported P s.report x.2.report)
      (Raised P) (e.evaluateExplicit r s site version) := by
  rw [evaluateExplicit]
  split
  · exact ⟨.nothing _, reported_of_eq rfl⟩
  · rename_i target htarget
    split
    · exact ⟨.nothing _, reported_of_eq rfl⟩
    · rename_i old hversion
      exact e.move_spec r s site hversion (hwhy old target htarget)

end Evaluator

theorem Site.version?_eq_some {s : Site} {old : String} (h : s.version? = some old) :
    s.declaration.version = some old ∧ Text.isBlank old = false := by
  obtain ⟨hversion, hblank⟩ := Option.filter_eq_some_iff.mp h
  exact ⟨hversion, by simpa using hblank⟩

namespace DependencyAlignment

variable (a : DependencyAlignment) (v : Visit) (d : Declaration)

/-- Why a declaration with a version text is moved to a target. -/
inductive Cause (r : Reactor) (old : String) : String → Bool → Prop where
  | matched {target : String}
      (matched : a.evaluator.Matched r (Site.of r v.module v.artifact d)
        (v.overrides.entriesOf (r.declaredArtifact v.module d)) v.rules old target) :
      Cause r old target false
  | forced {version target : String}
      (forced : v.rules.versionFor? (r.declaredArtifact v.module d) = some version)
      (nonblank : Text.nonBlank? version = some target) : Cause r old target true

/-- What aligning a declaration for a reason does to the reactor and the ledger. -/
inductive Effect (why : String → String → Bool → Prop) (r : Reactor) (ledger : PropertyLedger) :
    Reactor → PropertyLedger → Prop where
  | nothing : Effect why r ledger r ledger
  | demanded {old name target : String} {explicit : Bool} (version : d.version = some old)
      (nonblank : Text.isBlank old = false) (property : propertyOf? old = some name)
      (cause : why old target explicit) :
      Effect why r ledger r (ledger.record r
        (Evaluator.demandOf (Site.of r v.module v.artifact d) name target explicit)).2
  | replaced {old target : String} {explicit : Bool} (version : d.version = some old)
      (nonblank : Text.isBlank old = false) (literal : propertyOf? old = none)
      (cause : why old target explicit) :
      Effect why r ledger
        (r.setSlot v.module d.address (a.evaluator.literalText old target)) ledger

variable {a v d} {P : Violation → Prop} {why why' : String → String → Bool → Prop}
  {r r' : Reactor} {ledger ledger' : PropertyLedger} {s : State}

/-- A weaker reason will do. -/
theorem Effect.mono (h : Effect a v d why r ledger r' ledger')
    (hwhy : ∀ old target explicit, why old target explicit → why' old target explicit) :
    Effect a v d why' r ledger r' ledger' := by
  cases h with
  | nothing => exact .nothing
  | demanded hversion hblank hproperty hcause =>
    exact .demanded hversion hblank hproperty (hwhy _ _ _ hcause)
  | replaced hversion hblank hliteral hcause =>
    exact .replaced hversion hblank hliteral (hwhy _ _ _ hcause)

/-- Without a reason there is no effect. -/
theorem Effect.eq_of_not (h : Effect a v d why r ledger r' ledger')
    (hnot : ∀ old target explicit, ¬ why old target explicit) : r' = r ∧ ledger' = ledger := by
  cases h with
  | nothing => exact ⟨rfl, rfl⟩
  | demanded _ _ _ hcause => exact absurd hcause (hnot _ _ _)
  | replaced _ _ _ hcause => exact absurd hcause (hnot _ _ _)

theorem warnings_applyStep (site : Site) (p : Progress) (step : Step) :
    (applyStep site p step).report.warnings = p.report.warnings := by
  cases step <;> rfl

/-- The state after a declaration is aligned for a reason. -/
def Aligned (a : DependencyAlignment) (v : Visit) (d : Declaration)
    (why : String → String → Bool → Prop) (P : Violation → Prop) (s s' : State) : Prop :=
  Effect a v d why s.progress.reactor s.ledger s'.progress.reactor s'.ledger ∧
    Reported P s.progress.report s'.progress.report

/-- Carrying out what an evaluation asks for. -/
theorem perform_spec {evaluate : Evaluation → Evaluated}
    (h : Satisfies
      (fun x =>
        a.evaluator.Asks s.progress.reactor { ledger := s.ledger, report := s.progress.report }
          (Site.of s.progress.reactor v.module v.artifact d) why x.1 x.2.ledger ∧
        Reported P s.progress.report x.2.report)
      (Raised P) (evaluate { ledger := s.ledger, report := s.progress.report })) :
    Satisfies (Aligned a v d why P s) (Raised P)
      (perform (Site.of s.progress.reactor v.module v.artifact d) s evaluate) := by
  refine h.bind ?_
  rintro ⟨step, after⟩ ⟨hasks, hreported⟩
  refine ⟨?_, hreported.trans (reported_of_eq (warnings_applyStep _ _ _))⟩
  dsimp only at hasks ⊢
  generalize after.ledger = ledger at hasks ⊢
  cases hasks with
  | nothing o => exact .nothing
  | demand o hversion hproperty hcause =>
    obtain ⟨hversion, hblank⟩ := Site.version?_eq_some hversion
    exact .demanded hversion hblank hproperty hcause
  | literal hversion hliteral hcause =>
    obtain ⟨hversion, hblank⟩ := Site.version?_eq_some hversion
    rw [Evaluator.literal]
    dsimp only
    split
    · exact .nothing
    · exact .replaced hversion hblank hliteral hcause

/-- Why the override entries move a declaration, which explicit rules leave to them. -/
def ByOverride (a : DependencyAlignment) (v : Visit) (d : Declaration) (r : Reactor)
    (old target : String) (explicit : Bool) : Prop :=
  explicit = false ∧
    a.evaluator.Matched r (Site.of r v.module v.artifact d)
      (v.overrides.entriesOf (r.declaredArtifact v.module d)) v.rules old target

/-- A version that rules force, after the override entries. Where there is one, the entries had no
effect. -/
theorem alignForced_spec {s₁ : State}
    (h : Aligned a v d (ByOverride a v d s.progress.reactor) P s s₁) :
    Satisfies (Aligned a v d (Cause a v d s.progress.reactor) P s) (Raised P)
      (match v.rules.versionFor? (s.progress.reactor.declaredArtifact v.module d) with
        | none => pure s₁
        | some version =>
          perform (Site.of s.progress.reactor v.module v.artifact d) s₁
            (a.evaluator.evaluateExplicit s₁.progress.reactor ·
              (Site.of s.progress.reactor v.module v.artifact d) version)) := by
  obtain ⟨heffect, hreported⟩ := h
  split
  · refine ⟨heffect.mono ?_, hreported⟩
    rintro old target explicit ⟨rfl, hmatched⟩
    exact .matched hmatched
  · rename_i version hversion
    obtain ⟨hreactor, hledger⟩ := heffect.eq_of_not fun old target explicit h =>
      absurd (h.2.unforced.symm.trans hversion) nofun
    rw [← hreactor]
    have hperform : Satisfies (Aligned a v d (Cause a v d s₁.progress.reactor) P s₁) (Raised P)
        (perform (Site.of s₁.progress.reactor v.module v.artifact d) s₁
          (a.evaluator.evaluateExplicit s₁.progress.reactor ·
            (Site.of s₁.progress.reactor v.module v.artifact d) version)) :=
      perform_spec (a.evaluator.evaluateExplicit_spec _ _ _ fun _ _ htarget =>
        .forced (hreactor ▸ hversion) htarget)
    refine hperform.mono ?_
    rintro s₂ ⟨heffect₂, hreported₂⟩
    rw [hledger] at heffect₂
    exact ⟨hreactor ▸ heffect₂, hreported.trans hreported₂⟩

/-- A declaration has an effect only for a cause, and it is checked strictly only if no rule forces
its version. -/
theorem alignDeclaration_spec
    (hP : v.rules.versionFor? (s.progress.reactor.declaredArtifact v.module d) = none →
      ∀ kind present candidate,
        P ⟨v.artifact, s.progress.reactor.declaredArtifact v.module d, kind, present, candidate⟩) :
    Satisfies (Aligned a v d (Cause a v d s.progress.reactor) P s) (Raised P)
      (a.alignDeclaration v s d) := by
  rw [alignDeclaration]
  dsimp only
  split
  · exact alignForced_spec ⟨.nothing, reported_of_eq rfl⟩
  · have hevaluated : Satisfies (Aligned a v d (ByOverride a v d s.progress.reactor) P s)
        (Raised P)
        (perform (Site.of s.progress.reactor v.module v.artifact d) s
          (a.evaluator.evaluate s.progress.reactor ·
            (Site.of s.progress.reactor v.module v.artifact d)
            (v.overrides.entriesOf (s.progress.reactor.declaredArtifact v.module d)) v.rules)) :=
      perform_spec (a.evaluator.evaluate_spec _ _ _ _ _ (fun _ _ hmatched => ⟨rfl, hmatched⟩)
        fun hunforced present candidate => hP hunforced _ present candidate)
    exact hevaluated.bind fun _ h => alignForced_spec h

end DependencyAlignment

end BuildAlign
