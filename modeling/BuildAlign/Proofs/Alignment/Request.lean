import BuildAlign.Proofs.Alignment.Effect
import BuildAlign.Proofs.Reactor.View

/-!
What a declaration asks for when it is aligned, as a function of what its module sees: another
version text, a value of the property that its text refers to, or nothing. Aligning the declaration
does that and nothing else, whatever it reports.
-/

namespace BuildAlign

/-- What a declaration asks for. -/
inductive Request where
  | nothing
  | rewrite (version : String)
  | demand (d : Demand)
  deriving DecidableEq

def Step.text? : Step → Option String
  | replace version => some version
  | done _ => none

namespace Request

def text? : Request → Option String
  | rewrite version => some version
  | _ => none

def demand? : Request → Option Demand
  | demand d => some d
  | _ => none

def write (x : Request) (a : Address) (m : Module) : Module :=
  match x.text? with
  | some version => m.setSlot a version
  | none => m

def applyTo (x : Request) (r : Reactor) (id : Nat) (a : Address) : Reactor :=
  match x.text? with
  | some version => r.setSlot id a version
  | none => r

def recordIn (x : Request) (r : Reactor) (ledger : PropertyLedger) : PropertyLedger :=
  match x.demand? with
  | some d => (ledger.record r d).2
  | none => ledger

/-- A step and the ledger after it, if they do what is asked for. -/
structure Fulfilled (x : Request) (r : Reactor) (ledger : PropertyLedger) (y : Step × Evaluation) :
    Prop where
  text : y.1.text? = x.text?
  ledger : y.2.ledger = x.recordIn r ledger

/-- Aligning a declaration fails only by a strict check or by a demand. -/
def MayFail (x : Request) (strict : StrictPolicy) : Prop :=
  strict.failOnViolation = true ∨ x.demand?.isSome = true

end Request

section

variable (x : Request) {r : Reactor} {id : Nat}

theorem Request.module_applyTo (hid : id < r.size) (a : Address) (id' : Nat) :
    (x.applyTo r id a).module id' = if id' = id then x.write a (r.module id) else r.module id' := by
  rw [applyTo, write]
  cases x.text? with
  | none =>
    by_cases heq : id' = id
    · rw [if_pos heq, heq]
    · rw [if_neg heq]
  | some version => exact r.module_setSlot hid a version id'

theorem Request.sameView_applyTo (hid : id < r.size) (a : Address) :
    r.SameView id (x.applyTo r id a) := by
  rw [applyTo]
  cases x.text? with
  | none => exact .refl id r
  | some version => exact r.sameView_setSlot hid a version

/-- Requests that write no text leave a module as it is. -/
theorem Request.foldl_write_eq_self (x : Declaration → Request) {ds : List Declaration}
    (hds : ∀ d ∈ ds, (x d).text? = none) (m : Module) :
    ds.foldl (fun m d => (x d).write d.address m) m = m := by
  induction ds with
  | nil => rfl
  | cons d later ih =>
    obtain ⟨hd, hlater⟩ := List.forall_mem_cons.mp hds
    rw [List.foldl_cons, write, hd]
    exact ih hlater

end

open Request

/-- The text in front of the label is kept, and what follows it is the target's. -/
theorem spliceAt?_eq_some_iff {label old target new : List Char} :
    spliceAt? label old target = some new ↔
      ∃ head rest front tail, Text.cutFirst? label old = some (head, rest) ∧
        Text.cutFirst? label target = some (front, tail) ∧ new = head ++ label ++ tail := by
  simp only [spliceAt?, Option.bind_eq_bind, Option.bind_eq_some_iff]
  constructor
  · rintro ⟨⟨head, rest⟩, hold, ⟨front, tail⟩, htarget, hnew⟩
    exact ⟨head, rest, front, tail, hold, htarget, (Option.some.inj hnew).symm⟩
  · rintro ⟨head, rest, front, tail, hold, htarget, rfl⟩
    exact ⟨(head, rest), hold, (front, tail), htarget, rfl⟩

namespace Evaluator

variable (e : Evaluator) (r : Reactor) (s : Evaluation) (site : Site)

theorem literalText_of_not_hasReference {old : String} (hold : Template.hasReference old = false)
    (target : String) : e.literalText old target = target := by
  rw [literalText, hold]
  rfl

theorem literalText_of_splice {old target label : String} {new : List Char}
    (hold : Template.hasReference old = true) (hlabel : e.strict.label = some label)
    (hnew : spliceAt? label.toList old.toList target.toList = some new) :
    e.literalText old target = String.ofList new := by
  rw [literalText, if_pos hold, hlabel, Option.bind_some, hnew, Option.map_some, Option.getD_some]

/-- A version text is replaced by the target, or by what the target is joined to it at the label. -/
theorem literalText_cases (old target : String) :
    e.literalText old target = target ∨
      ∃ label new, e.strict.label = some label ∧
        spliceAt? label.toList old.toList target.toList = some new ∧
        e.literalText old target = String.ofList new := by
  cases hold : Template.hasReference old with
  | false => exact .inl (e.literalText_of_not_hasReference hold target)
  | true =>
    cases hspliced : e.strict.label.bind fun label =>
        spliceAt? label.toList old.toList target.toList with
    | none =>
      rw [literalText, if_pos hold, hspliced]
      exact .inl rfl
    | some new =>
      obtain ⟨label, hlabel, hnew⟩ := Option.bind_eq_some_iff.mp hspliced
      exact .inr ⟨label, new, hlabel, hnew, e.literalText_of_splice hold hlabel hnew⟩

def requestMove (old target : String) (explicit : Bool) : Request :=
  match propertyOf? old with
  | some name => .demand (demandOf site name target explicit)
  | none =>
    if e.literalText old target = old then .nothing else .rewrite (e.literalText old target)

/-- What a declaration asks for whose version text is moved to the target for it, if there is one.
The second part of a target says whether an explicit rule gave it. -/
def requestTo (target? : String → Option (String × Bool)) : Request :=
  match site.version? with
  | none => .nothing
  | some old =>
    match target? old with
    | none => .nothing
    | some (target, explicit) => e.requestMove site old target explicit

def entryTarget? (entries : List OverrideEntry) (old : String) : Option (String × Bool) :=
  if isSelfReference r site.module old then none
  else (e.strict.choose? (r.resolve site.module old) (candidateVersions entries)).map (·, false)

/-- The target that override entries give where no rule forces a version. -/
def unforcedTarget? (entries : List OverrideEntry) (rules : ExplicitRules) (old : String) :
    Option (String × Bool) :=
  if (rules.versionFor? site.artifact).isSome then none else e.entryTarget? r site entries old

def ruleTarget? (version : String) : Option (String × Bool) :=
  (Text.nonBlank? version).map (·, true)

theorem requestTo_of_none {target? : String → Option (String × Bool)}
    (h : ∀ old, site.version? = some old → target? old = none) :
    e.requestTo site target? = .nothing := by
  rw [requestTo]
  split
  · rfl
  · rename_i old hversion
    rw [h old hversion]

theorem requestTo_of_some {target? : String → Option (String × Bool)} {old target : String}
    {explicit : Bool} (hversion : site.version? = some old)
    (htarget : target? old = some (target, explicit)) :
    e.requestTo site target? = e.requestMove site old target explicit := by
  simp only [requestTo, hversion, htarget]

/-- A demand is recorded in the ledger, accepted or not; the version text itself stays. -/
theorem demand_exact (name target : String) (explicit : Bool) :
    Satisfies ((Request.demand (demandOf site name target explicit)).Fulfilled r s.ledger)
      (fun _ => (Request.demand (demandOf site name target explicit)).MayFail e.strict)
      (e.demand r s site name target explicit) := by
  have hdemand := e.demand_spec (P := fun _ => True) r s site name target explicit
  cases hresult : e.demand r s site name target explicit with
  | error error => exact .inr rfl
  | ok y =>
    rw [hresult] at hdemand
    obtain ⟨⟨o, hstep⟩, hledger, _⟩ := hdemand
    refine ⟨?_, hledger⟩
    rw [hstep]
    rfl

theorem move_exact (old target : String) (explicit : Bool) :
    Satisfies ((e.requestMove site old target explicit).Fulfilled r s.ledger)
      (fun _ => (e.requestMove site old target explicit).MayFail e.strict)
      (e.move r s site old target explicit) := by
  simp only [requestMove, move]
  cases propertyOf? old with
  | some name => exact e.demand_exact r s site name target explicit
  | none =>
    simp only [literal]
    split
    · exact ⟨rfl, rfl⟩
    · exact ⟨rfl, rfl⟩

/-- The evaluation against the override entries gives the step that the request describes. It fails
only where the request says that it may. -/
theorem evaluate_exact (entries : List OverrideEntry) (rules : ExplicitRules) :
    Satisfies
      ((e.requestTo site (e.unforcedTarget? r site entries rules)).Fulfilled r s.ledger)
      (fun _ => (e.requestTo site (e.unforcedTarget? r site entries rules)).MayFail e.strict)
      (e.evaluate r s site entries rules) := by
  have hnothing : (∀ old, site.version? = some old →
      e.unforcedTarget? r site entries rules old = none) → ∀ o report,
      (e.requestTo site (e.unforcedTarget? r site entries rules)).Fulfilled r s.ledger
        (.done o, { s with report }) := by
    intro hnone o report
    rw [e.requestTo_of_none site hnone]
    exact ⟨rfl, rfl⟩
  rw [evaluate]
  split
  · rename_i hcandidates
    refine hnothing (fun old _ => ?_) _ _
    simp [unforcedTarget?, entryTarget?, hcandidates, StrictPolicy.choose?]
  · rename_i first others hcandidates
    split
    · rename_i hversion
      refine hnothing (fun old hold => ?_) _ _
      rw [hversion] at hold
      cases hold
    · rename_i old hversion
      have hold : ∀ old', site.version? = some old' → old' = old :=
        fun old' hold' => Option.some.inj (hold'.symm.trans hversion)
      split
      · rename_i hself
        refine hnothing (fun old' hold' => ?_) _ _
        rw [hold old' hold', unforcedTarget?, entryTarget?, if_pos hself, ite_self]
      · rename_i hguarded
        split
        · rename_i hforced
          exact hnothing (fun _ _ => if_pos hforced) _ _
        · rename_i hunforced
          have htarget : e.unforcedTarget? r site entries rules old =
              (e.strict.choose? (r.resolve site.module old) (first :: others)).map (·, false) := by
            rw [unforcedTarget?, if_neg hunforced, entryTarget?, if_neg hguarded, hcandidates]
          dsimp only
          split
          · rename_i target hchosen
            rw [hchosen] at htarget
            rw [e.requestTo_of_some site hversion htarget]
            exact e.move_exact r s site old target false
          · rename_i hnone
            rw [hnone] at htarget
            rw [StrictPolicy.violation]
            split
            · rename_i hfatal
              exact .inl hfatal
            · exact hnothing (fun old' hold' => hold old' hold' ▸ htarget) _ _

/-- The same for the version that a rule forces on the declaration. -/
theorem evaluateExplicit_exact (version : String) :
    Satisfies ((e.requestTo site fun _ => ruleTarget? version).Fulfilled r s.ledger)
      (fun _ => (e.requestTo site fun _ => ruleTarget? version).MayFail e.strict)
      (e.evaluateExplicit r s site version) := by
  simp only [requestTo, ruleTarget?, evaluateExplicit]
  cases Text.nonBlank? version with
  | none =>
    cases site.version? <;> exact ⟨rfl, rfl⟩
  | some target =>
    cases site.version? with
    | none => exact ⟨rfl, rfl⟩
    | some old => exact e.move_exact r s site old target true

end Evaluator

namespace DependencyAlignment

variable (a : DependencyAlignment) (v : Visit)

/-- Where a declaration is moved to: to the version that a rule forces, or else to the one that the
overrides give. -/
def target? (r : Reactor) (site : Site) (old : String) : Option (String × Bool) :=
  match v.rules.versionFor? site.artifact with
  | some version => Evaluator.ruleTarget? version
  | none => a.evaluator.entryTarget? r site (v.overrides.entriesOf site.artifact) old

def requestOf (r : Reactor) (d : Declaration) : Request :=
  a.evaluator.requestTo (Site.of r v.module v.artifact d)
    (a.target? v r (Site.of r v.module v.artifact d))

/-- The state after a declaration gets what it asks for, up to what is reported. -/
structure Granted (x : Request) (id : Nat) (address : Address) (s s' : State) : Prop where
  reactor : s'.progress.reactor = x.applyTo s.progress.reactor id address
  ledger : s'.ledger = x.recordIn s.progress.reactor s.ledger

variable {a v}

/-- Carrying out a step does what was asked for, and changes the ledger only by a demand. -/
theorem perform_exact {site : Site} {s : State} {evaluate : Evaluation → Evaluated} {x : Request}
    {E : AlignError → Prop}
    (h : Satisfies (x.Fulfilled s.progress.reactor s.ledger) E
      (evaluate { ledger := s.ledger, report := s.progress.report })) :
    Satisfies (Granted x site.module site.declaration.address s) E (perform site s evaluate) := by
  refine h.bind ?_
  rintro ⟨step, after⟩ ⟨hstep, hledger⟩
  refine ⟨?_, hledger⟩
  rw [applyTo, ← hstep]
  cases step <;> rfl

variable (a v)

theorem alignEntries_exact (s : State) (site : Site) :
    let entries := v.overrides.entriesOf site.artifact
    let x := a.evaluator.requestTo site
      (a.evaluator.unforcedTarget? s.progress.reactor site entries v.rules)
    Satisfies (Granted x site.module site.declaration.address s) (fun _ => x.MayFail a.strict)
      (if entries.isEmpty then pure s
        else perform site s (a.evaluator.evaluate s.progress.reactor · site entries v.rules)) := by
  intro entries x
  split
  · rename_i hempty
    have hx : x = .nothing := by
      refine a.evaluator.requestTo_of_none site fun old _ => ?_
      simp [List.isEmpty_iff.mp hempty, Evaluator.unforcedTarget?, Evaluator.entryTarget?,
        candidateVersions, StrictPolicy.choose?]
    rw [hx]
    exact ⟨rfl, rfl⟩
  · exact perform_exact (a.evaluator.evaluate_exact _ _ site entries v.rules)

/-- The overrides are asked first, and then the rule that forces a version, if there is one. -/
theorem alignDeclaration_eq (s : State) (d : Declaration) :
    a.alignDeclaration v s d =
      let site := Site.of s.progress.reactor v.module v.artifact d
      let entries := v.overrides.entriesOf site.artifact
      (if entries.isEmpty then pure s
        else perform site s (a.evaluator.evaluate s.progress.reactor · site entries v.rules)) >>=
      fun s₁ =>
        match v.rules.versionFor? site.artifact with
        | none => pure s₁
        | some version =>
          perform site s₁ (a.evaluator.evaluateExplicit s₁.progress.reactor · site version) := by
  rw [alignDeclaration]
  dsimp only
  split <;> rfl

section

variable {v} {site : Site}

theorem unforcedTarget?_of_unforced (h : v.rules.versionFor? site.artifact = none) (r : Reactor) :
    a.evaluator.unforcedTarget? r site (v.overrides.entriesOf site.artifact) v.rules =
      a.target? v r site := by
  funext old
  simp [Evaluator.unforcedTarget?, target?, h]

variable {version : String} (h : v.rules.versionFor? site.artifact = some version) (r : Reactor)

include h

/-- Where a rule forces a version, the overrides ask for nothing. -/
theorem requestTo_of_forced :
    a.evaluator.requestTo site
      (a.evaluator.unforcedTarget? r site (v.overrides.entriesOf site.artifact) v.rules) =
        .nothing := by
  refine a.evaluator.requestTo_of_none site fun old _ => ?_
  simp [Evaluator.unforcedTarget?, h]

theorem target?_of_forced : a.target? v r site = fun _ => Evaluator.ruleTarget? version := by
  funext old
  simp only [target?, h]

end

/-- Aligning a declaration does what it asks for, or fails. -/
theorem alignDeclaration_exact (s : State) (d : Declaration) :
    Satisfies (Granted (a.requestOf v s.progress.reactor d) v.module d.address s)
      (fun _ => (a.requestOf v s.progress.reactor d).MayFail a.strict)
      (a.alignDeclaration v s d) := by
  rw [alignDeclaration_eq, requestOf]
  generalize hsite : Site.of s.progress.reactor v.module v.artifact d = site
  have haddress : site.module = v.module ∧ site.declaration.address = d.address :=
    hsite ▸ ⟨rfl, rfl⟩
  rw [← haddress.1, ← haddress.2]
  have hentries := a.alignEntries_exact v s site
  dsimp only at hentries ⊢
  cases hforced : v.rules.versionFor? site.artifact with
  | none =>
    rw [a.unforcedTarget?_of_unforced hforced] at hentries
    exact hentries.bind fun s₁ hs₁ => hs₁
  | some version =>
    rw [a.requestTo_of_forced hforced] at hentries
    rw [a.target?_of_forced hforced]
    have hfatal (h : Request.nothing.MayFail a.strict) : a.strict.failOnViolation = true := by
      rcases h with hfatal | hdemand
      · exact hfatal
      · cases hdemand
    refine (hentries.monoError fun _ h => .inl (hfatal h)).bind ?_
    rintro s₁ ⟨hreactor, hledger⟩
    refine (perform_exact (a.evaluator.evaluateExplicit_exact _ _ site version)).mono ?_
    rintro s₂ ⟨hreactor₂, hledger₂⟩
    rw [hreactor] at hreactor₂ hledger₂
    rw [hledger] at hledger₂
    exact ⟨hreactor₂, hledger₂⟩

/-! ## What a request depends on -/

variable {a v} {r r' : Reactor}

/-- A target is one for a cause. -/
theorem cause_of_target? {d : Declaration} {old target : String} {explicit : Bool}
    (h : a.target? v r (Site.of r v.module v.artifact d) old = some (target, explicit)) :
    Cause a v d r old target explicit := by
  rw [target?] at h
  split at h
  · rename_i version hforced
    obtain ⟨_, htarget, heq⟩ := Option.map_eq_some_iff.mp h
    obtain ⟨rfl, rfl⟩ := Prod.mk.inj heq
    exact .forced hforced htarget
  · rename_i hunforced
    rw [Evaluator.entryTarget?] at h
    split at h
    · exact absurd h nofun
    · rename_i hguarded
      obtain ⟨_, hchosen, heq⟩ := Option.map_eq_some_iff.mp h
      obtain ⟨rfl, rfl⟩ := Prod.mk.inj heq
      exact .matched ⟨by simpa using hguarded, hunforced, hchosen⟩

/-- What a declaration may ask for, and why. -/
inductive Asked (a : DependencyAlignment) (v : Visit) (r : Reactor) (d : Declaration) :
    Request → Prop where
  | nothing : Asked a v r d .nothing
  | rewrite {old target : String} {explicit : Bool} (version : d.version = some old)
      (nonblank : Text.isBlank old = false) (literal : propertyOf? old = none)
      (cause : Cause a v d r old target explicit) :
      Asked a v r d (.rewrite (a.evaluator.literalText old target))
  | demand {old name target : String} {explicit : Bool} (version : d.version = some old)
      (nonblank : Text.isBlank old = false) (property : propertyOf? old = some name)
      (cause : Cause a v d r old target explicit) :
      Asked a v r d
        (.demand (Evaluator.demandOf (Site.of r v.module v.artifact d) name target explicit))

/-- What a declaration asks for always has a cause: a version that a rule forces or that an entry
offers. -/
theorem requestOf_asked (a : DependencyAlignment) (v : Visit) (r : Reactor) (d : Declaration) :
    Asked a v r d (a.requestOf v r d) := by
  rw [requestOf, Evaluator.requestTo]
  split
  · exact .nothing
  · rename_i old hversion
    obtain ⟨hversion, hblank⟩ := Site.version?_eq_some hversion
    split
    · exact .nothing
    · rename_i target explicit htarget
      rw [Evaluator.requestMove]
      split
      · rename_i name hproperty
        exact .demand hversion hblank hproperty (cause_of_target? htarget)
      · rename_i hliteral
        split
        · exact .nothing
        · exact .rewrite hversion hblank hliteral (cause_of_target? htarget)

theorem isSelfReference_congr {id : Nat} (h : r.SameView id r') (old : String) :
    Evaluator.isSelfReference r' id old = Evaluator.isSelfReference r id old := by
  rw [Evaluator.isSelfReference, Evaluator.isSelfReference, h.writtenVersion, h.frame.isOwnVersion]

/-- A declaration asks for the same wherever its module has the same view. -/
theorem requestOf_congr (h : r.SameView v.module r') (d : Declaration) :
    a.requestOf v r' d = a.requestOf v r d := by
  have hsite : Site.of r' v.module v.artifact d = Site.of r v.module v.artifact d := by
    rw [Site.of, Site.of, h.declaredArtifact]
  rw [requestOf, requestOf, hsite]
  generalize hof : Site.of r v.module v.artifact d = site
  have hmodule : site.module = v.module := hof ▸ rfl
  have htarget : a.target? v r' site = a.target? v r site := by
    funext old
    rw [target?, target?, Evaluator.entryTarget?, Evaluator.entryTarget?, hmodule,
      isSelfReference_congr h, h.resolve]
  rw [htarget]

end DependencyAlignment

/-- A demand is recorded alike wherever its module has the same view. -/
theorem PropertyLedger.record_congr {r r' : Reactor} (ledger : PropertyLedger) {d : Demand}
    (h : r.SameView d.module r') : ledger.record r' d = ledger.record r d := by
  rw [record, record, h.frame.ownerOf, h.resolve]

end BuildAlign
