import BuildAlign.Proofs.Alignment.Effect
import BuildAlign.Proofs.Alignment.Parent
import BuildAlign.Proofs.Alignment.Phases
import BuildAlign.Proofs.Alignment.Traced
import BuildAlign.Proofs.Reactor.NamesRead
import BuildAlign.Proofs.Reactor.Order

/-!
What a whole run of the alignment does, and why. No module is visited twice, and a visit changes
only the module that is visited, and keeps its frame. So in the end every declaration is as it was,
or its version text was replaced for a cause; every value in the ledger was demanded for a cause;
and every strict violation is that of a declared parent, or of an artifact whose version no rule
forces.
-/

namespace BuildAlign

namespace DependencyAlignment

open Violation Reactor

variable (a : DependencyAlignment) (r : Reactor)

/-- The visit of a module, if nothing of it has changed yet. -/
def visit (id : Nat) : Visit where
  module := id
  artifact := r.artifact id
  overrides := (a.rules.inModule (r.artifact id)).applyExclusions (a.overridesFor r)
  rules := a.rules.inModule (r.artifact id)

/-- What may become of a declared parent. -/
inductive ParentRealigned (id : Nat) : Option Parent → Prop where
  | kept : ParentRealigned id (r.module id).parent
  | moved {parent : Parent} {new : String} (root : r.isRoot id = true)
      (declared : (r.module id).parent = some parent)
      (cause : a.ParentCause (a.visit r id) r parent new) :
      ParentRealigned id (some { parent with version := new })

/-- There is a cause to move a declaration during the visit of its module. All that is read then of
what may have changed is the declared parent. -/
def Moves (id : Nat) (d : Declaration) (old target : String) (explicit : Bool) : Prop :=
  ∃ r', r.SameFrame r' ∧ ParentRealigned a r id (r'.module id).parent ∧
    a.Cause (a.visit r id) d r' old target explicit

/-- What may become of a declaration. -/
inductive Realigned (id : Nat) (d : Declaration) : Declaration → Prop where
  | kept : Realigned id d d
  | moved {old target : String} {explicit : Bool} (version : d.version = some old)
      (literal : propertyOf? old = none) (moves : a.Moves r id d old target explicit) :
      Realigned id d { d with version := some (a.evaluator.literalText old target) }

inductive Demanded (owner : PropertyOwner) (target : String) : Prop where
  | of {id : Nat} {d : Declaration} {old name : String} {explicit : Bool} (inside : id < r.size)
      (declared : d ∈ (r.module id).declarations) (version : d.version = some old)
      (property : propertyOf? old = some name)
      (lives : (PropertyLedger.ownerOf r id name).1 = owner)
      (moves : a.Moves r id d old target explicit)

/-- Where a strict violation may come from. -/
inductive MayViolate (x : Violation) : Prop where
  | unforced (unforced : (a.rules.inModule x.module).versionFor? x.artifact = none)
  | parent {id : Nat} (inside : id < r.size) (root : r.isRoot id = true)
      (violation : a.ParentViolation (a.visit r id) r x)

/-- A module as it may be after its visit, but for added managed dependencies. -/
structure ModuleTrace (id : Nat) (m : Module) : Prop where
  parent : ParentRealigned a r id m.parent
  declarations : ∃ f, m.declarations = (r.module id).declarations.map f ∧
    ∀ d ∈ (r.module id).declarations, Realigned a r id d (f d)

/-- While a module is visited. -/
structure Visiting (id : Nat) (before now : Reactor) (ledger : PropertyLedger) : Prop where
  frame : r.SameFrame now
  others : ∀ id', id' ≠ id → now.module id' = before.module id'
  trace : ModuleTrace a r id (now.module id)
  ledger : ledger.Traced r (Demanded a r)

/-- Between two visits, with the modules that are still to be visited. -/
structure Walk (later : List Nat) (s : State) : Prop where
  nodup : later.Nodup
  inside : ∀ id ∈ later, id < r.size
  frame : r.SameFrame s.progress.reactor
  unvisited : ∀ id ∈ later, s.progress.reactor.module id = r.module id
  traces : ∀ id, ∃ m added, ModuleTrace a r id m ∧ s.progress.reactor.module id = m.manage added
  ledger : s.ledger.Traced r (Demanded a r)

variable {a r}

/-! ## One declaration -/

theorem Realigned.address {id : Nat} {d d' : Declaration} (h : Realigned a r id d d') :
    d'.address = d.address := by
  cases h <;> rfl

theorem Realigned.withVersion {id : Nat} {d d' : Declaration} (h : Realigned a r id d d')
    (version : Option String) : { d' with version } = { d with version } := by
  cases h <;> rfl

theorem ModuleTrace.refl (id : Nat) : ModuleTrace a r id (r.module id) :=
  ⟨.kept, fun d => d, (List.map_id' _).symm, fun _ _ => .kept⟩

/-- A declaration that is replaced is still one that may have become of what it was, even if it was
replaced before. -/
theorem ModuleTrace.setSlot {id : Nat} {m : Module} {d : Declaration} {old target : String}
    {explicit : Bool} (h : ModuleTrace a r id m) (hd : d ∈ (r.module id).declarations)
    (hversion : d.version = some old) (hliteral : propertyOf? old = none)
    (hmoves : a.Moves r id d old target explicit) :
    ModuleTrace a r id (m.setSlot d.address (a.evaluator.literalText old target)) := by
  obtain ⟨f, hf, hrealigned⟩ := h.declarations
  have hparent : (m.setSlot d.address (a.evaluator.literalText old target)).parent = m.parent :=
    m.parent_modifyBody _ d.address.scope
  refine ⟨hparent ▸ h.parent,
    Declaration.rewrite d.address (a.evaluator.literalText old target) ∘ f, ?_, ?_⟩
  · rw [Module.declarations_setSlot, hf, List.map_map]
  · intro d' hd'
    have hfirst := hrealigned d' hd'
    rw [Function.comp_apply, Declaration.rewrite]
    split
    · rename_i haddress
      obtain rfl : d' = d := Module.eq_of_address_eq hd' hd (hfirst.address.symm.trans haddress)
      rw [hfirst.withVersion]
      exact .moved hversion hliteral hmoves
    · exact hfirst

variable {id : Nat} {before now now' : Reactor} {ledger ledger' : PropertyLedger}

/-- A change of the visited module that keeps its frame. -/
theorem Visiting.modify (h : Visiting a r id before now ledger) (hid : id < r.size)
    (edit : Module → Module) (keeps : ∀ m, (edit m).parentModule = m.parentModule)
    (hframe : (now.module id).SameFrame (edit (now.module id)))
    (htrace : ModuleTrace a r id (edit (now.module id))) :
    Visiting a r id before (now.modify id edit keeps) ledger := by
  have hnow : id < now.size := h.frame.size ▸ hid
  constructor
  · exact h.frame.trans (now.sameFrame_modify hnow edit keeps hframe)
  · intro id' hne
    rw [now.module_modify hnow, if_neg hne]
    exact h.others id' hne
  · rw [now.module_modify hnow, if_pos rfl]
    exact htrace
  · exact h.ledger

/-- Aligning one declaration keeps the invariant of the visit, for any of the known effects. -/
theorem Visiting.effect {d : Declaration} (h : Visiting a r id before now ledger)
    (hid : id < r.size) (hd : d ∈ (r.module id).declarations)
    (heffect : Effect a (a.visit r id) d (Cause a (a.visit r id) d now) now ledger now' ledger') :
    Visiting a r id before now' ledger' := by
  cases heffect with
  | nothing => exact h
  | demanded hversion _ hproperty hcause =>
    refine ⟨h.frame, h.others, h.trace, h.ledger.record h.frame hid ?_⟩
    exact .of hid hd hversion hproperty rfl ⟨now, h.frame, h.trace.parent, hcause⟩
  | replaced hversion _ hliteral hcause =>
    exact h.modify hid _ _ (Module.sameFrame_setSlot _ _ _)
      (h.trace.setSlot hd hversion hliteral ⟨now, h.frame, h.trace.parent, hcause⟩)

/-! ## One module -/

/-- The declared parent comes first. -/
theorem Visiting.parent (h : Visiting a r id before before ledger)
    (hmodule : before.module id = r.module id) (hid : id < r.size) (hroot : r.isRoot id = true)
    (heffect : ParentEffect a (a.visit r id) before now) :
    Visiting a r id before now ledger := by
  have hresolve : before.resolve id = r.resolve id := funext (h.frame.resolve hmodule)
  cases heffect with
  | nothing => exact h
  | moved hdeclared hcause =>
    rename_i parent new
    rw [visit, hmodule] at hdeclared
    have hcause : a.ParentCause (a.visit r id) r parent new := by
      cases hcause with
      | matched hunforced hchosen => exact .matched hunforced (hresolve ▸ hchosen)
      | forced hforced => exact .forced hforced
    have hparent : ((r.module id).withParentVersion new).parent =
        some { parent with version := new } := by
      rw [Module.withParentVersion, hdeclared]
      rfl
    refine h.modify hid _ _ (Module.sameFrame_withParentVersion new _) ?_
    rw [hmodule]
    exact ⟨hparent ▸ .moved hroot hdeclared hcause, (ModuleTrace.refl id).declarations⟩

/-- Whatever happens to the declared parent, the declarations stay. -/
theorem ParentEffect.declarations {v : Visit} (hid : v.module < before.size)
    (h : ParentEffect a v before now) :
    (now.module v.module).declarations = (before.module v.module).declarations := by
  cases h with
  | nothing => rfl
  | moved _ _ =>
    rw [setParentVersion, before.module_modify hid, if_pos rfl]
    rfl

/-- The checks of a declared parent are those before anything has changed. -/
theorem parentViolation_congr {x : Violation} (hframe : r.SameFrame before)
    (hmodule : before.module id = r.module id) :
    ParentViolation a (a.visit r id) before x ↔ ParentViolation a (a.visit r id) r x := by
  have hresolve : before.resolve id = r.resolve id := funext (hframe.resolve hmodule)
  constructor
  · rintro ⟨hkind, hname, parent, others, hdeclared, hartifact, hpresent, hcandidates, hnone⟩
    rw [visit, hmodule] at hdeclared
    exact ⟨hkind, hname, parent, others, hdeclared, hartifact,
      hpresent.trans (congrFun hresolve _), hcandidates, hnone⟩
  · rintro ⟨hkind, hname, parent, others, hdeclared, hartifact, hpresent, hcandidates, hnone⟩
    rw [visit, ← hmodule] at hdeclared
    exact ⟨hkind, hname, parent, others, hdeclared, hartifact,
      hpresent.trans (congrFun hresolve _).symm, hcandidates, hnone⟩

structure Injected (id : Nat) (added : List Dependency) (now final : Reactor) : Prop where
  frame : now.SameFrame final
  others : ∀ id', id' ≠ id → final.module id' = now.module id'
  added : final.module id = (now.module id).manage added

theorem Injected.refl (id : Nat) (now : Reactor) : Injected id [] now now :=
  ⟨.refl now, fun _ _ => rfl, rfl⟩

theorem injected_manage {id : Nat} {now : Reactor} (hid : id < now.size) (added : List Dependency) :
    Injected id added now (now.modifyBody id .main fun b =>
      { b with managedDependencies := added ++ b.managedDependencies }) := by
  have hmodule := now.module_modify hid (Module.manage added) fun _ => rfl
  refine ⟨now.sameFrame_modify hid _ _ (Module.sameFrame_manage added _), ?_, ?_⟩
  · intro id' hne
    exact (hmodule id').trans (if_neg hne)
  · exact (hmodule id).trans (if_pos rfl)

/-- Adding managed dependencies puts them in front of those of the main body, and warns of nothing.
-/
theorem inject_spec {v : Visit} {p : Progress} (hid : v.module < p.reactor.size)
    (managed : KeySet Artifact) :
    (inject v managed p).report.warnings = p.report.warnings ∧
      Injected v.module (injections v.overrides managed) p.reactor
        (inject v managed p).reactor := by
  rw [inject]
  generalize injections v.overrides managed = added
  generalize hreactor : p.reactor.modifyBody v.module .main _ = reactor
  have hinjected : Injected v.module added p.reactor reactor := by
    rw [← hreactor]
    exact injected_manage hid added
  -- every addition is reported, and the first one already has the reactor with all of them
  have hfold : ∀ (ds : List Dependency) (q : Progress), q.report.warnings = p.report.warnings →
      q.reactor = reactor →
      let q' := ds.foldl (fun p d => p.edit reactor v.module v.artifact
        (.injectedManaged { group := d.group, name := d.name }) none d.version) q
      q'.report.warnings = p.report.warnings ∧ q'.reactor = reactor := by
    intro ds
    induction ds with
    | nil => exact fun q hwarnings hq => ⟨hwarnings, hq⟩
    | cons d ds ih => exact fun q hwarnings _ => ih _ hwarnings rfl
  cases added with
  | nil => exact ⟨rfl, .refl _ _⟩
  | cons d ds =>
    obtain ⟨hwarnings, hq⟩ := hfold ds (p.edit reactor v.module v.artifact _ none d.version) rfl rfl
    refine ⟨hwarnings, ?_⟩
    rw [List.foldl_cons, hq]
    exact hinjected

variable {later : List Nat} {s s' : State}

/-- After a visit the walk goes on with the later modules. The visited module has its trace, and no
other module changed. -/
theorem Walk.visited {added : List Dependency} (h : Walk a r (id :: later) s)
    (hvisited : Visiting a r id s.progress.reactor now s'.ledger)
    (hinjected : Injected id added now s'.progress.reactor) : Walk a r later s' := by
  obtain ⟨hnot, hnodup⟩ := List.nodup_cons.mp h.nodup
  obtain ⟨hid, hinside⟩ := List.forall_mem_cons.mp h.inside
  have hothers : ∀ id', id' ≠ id →
      s'.progress.reactor.module id' = s.progress.reactor.module id' :=
    fun id' hne => (hinjected.others id' hne).trans (hvisited.others id' hne)
  constructor
  · exact hnodup
  · exact hinside
  · exact hvisited.frame.trans hinjected.frame
  · intro id' hid'
    have hne : id' ≠ id := fun heq => hnot (heq ▸ hid')
    exact (hothers id' hne).trans (h.unvisited id' (List.mem_cons_of_mem _ hid'))
  · intro id'
    by_cases heq : id' = id
    · subst heq
      exact ⟨now.module id', added, hvisited.trace, hinjected.added⟩
    · rw [hothers id' heq]
      exact h.traces id'
  · exact hvisited.ledger

/-- All declarations of a module, one after the other. -/
theorem alignDeclarations_spec (h : Visiting a r id before s.progress.reactor s.ledger)
    (hid : id < r.size) {ds : List Declaration} (hds : ∀ d ∈ ds, d ∈ (r.module id).declarations) :
    Satisfies
      (fun s' => Visiting a r id before s'.progress.reactor s'.ledger ∧
        Reported (MayViolate a r) s.progress.report s'.progress.report)
      (Raised (MayViolate a r)) (ds.foldlM (a.alignDeclaration (a.visit r id)) s) := by
  let I : List Declaration → State → Prop := fun ds s' =>
    (∀ d ∈ ds, d ∈ (r.module id).declarations) ∧
      Visiting a r id before s'.progress.reactor s'.ledger ∧
      Reported (MayViolate a r) s.progress.report s'.progress.report
  have hfold := Satisfies.foldlM (I := I) (E := Raised (MayViolate a r))
    (f := a.alignDeclaration (a.visit r id)) ⟨hds, h, reported_of_eq rfl⟩ ?_
  · exact hfold.mono fun s' hs' => hs'.2
  · rintro d later s₁ ⟨hds, hvisiting, hreported⟩
    obtain ⟨hd, hlater⟩ := List.forall_mem_cons.mp hds
    refine (alignDeclaration_spec fun hunforced _ _ _ => .unforced hunforced).mono ?_
    rintro s₂ ⟨heffect, hreported₂⟩
    exact ⟨hlater, hvisiting.effect hid hd heffect, hreported.trans hreported₂⟩

/-- The failed checks of the declared parent are reported, if the module is a root. -/
def RootReported (a : DependencyAlignment) (r : Reactor) (report : Report) (id : Nat) : Prop :=
  r.isRoot id = true → ParentReported a (a.visit r id) r report

/-- What is reported stays reported, as reports only grow. -/
theorem RootReported.mono {P : Violation → Prop} {report report' : Report}
    (h : RootReported a r report id) (hreported : Reported P report report') :
    RootReported a r report' id := by
  intro hroot x hx
  obtain ⟨hmem, hlenient⟩ := h hroot x hx
  exact ⟨hreported.mem hmem, hlenient⟩

/-- What is left of a visit keeps the walk, with or without managed dependencies to add. -/
theorem alignBody_spec {p : Progress} (h : Walk a r (id :: later) s)
    (hvisiting : Visiting a r id s.progress.reactor p.reactor s.ledger)
    (hdeclarations : (p.reactor.module id).declarations = (r.module id).declarations)
    (hroot : RootReported a r p.report id) (isRoot : Bool) :
    Satisfies
      (fun s' => Walk a r later s' ∧ Reported (MayViolate a r) p.report s'.progress.report ∧
        RootReported a r s'.progress.report id)
      (Raised (MayViolate a r)) (a.alignBody (a.visit r id) isRoot s p) := by
  obtain ⟨hid, _⟩ := List.forall_mem_cons.mp h.inside
  have hds : ∀ d ∈ (p.reactor.module id).declarations, d ∈ (r.module id).declarations :=
    fun d hd => hdeclarations ▸ hd
  have haligned := alignDeclarations_spec (s := { s with progress := p }) hvisiting hid hds
  refine haligned.bind ?_
  rintro s₁ ⟨hvisited, hreported⟩
  split
  · obtain ⟨hwarnings, hinjected⟩ := inject_spec (v := a.visit r id)
      (hvisited.frame.size ▸ hid) (managedArtifacts p.reactor id)
    have hreported := hreported.trans (reported_of_eq hwarnings)
    exact ⟨h.visited hvisited hinjected, hreported, hroot.mono hreported⟩
  · exact ⟨h.visited hvisited (.refl _ _), hreported, hroot.mono hreported⟩

/-- The next visit is that of a module of which nothing has changed yet. -/
theorem Walk.alignModule_eq (h : Walk a r (id :: later) s) :
    a.alignModule (a.overridesFor r) s id =
      (if r.isRoot id then a.alignParent (a.visit r id) s.progress else pure s.progress) >>=
        a.alignBody (a.visit r id) (r.isRoot id) s := by
  have hmodule : s.progress.reactor.module id = r.module id :=
    h.unvisited id (List.mem_cons_self ..)
  rw [DependencyAlignment.alignModule_eq, h.frame.artifact hmodule, h.frame.isRoot]
  rfl

/-- One module of the walk: its visit keeps the invariant, every violation it reports may come up
there, and that of a root's parent is reported. -/
theorem alignModule_spec (h : Walk a r (id :: later) s) :
    Satisfies
      (fun s' => Walk a r later s' ∧
        Reported (MayViolate a r) s.progress.report s'.progress.report ∧
        RootReported a r s'.progress.report id)
      (Raised (MayViolate a r)) (a.alignModule (a.overridesFor r) s id) := by
  obtain ⟨hid, _⟩ := List.forall_mem_cons.mp h.inside
  have hmodule : s.progress.reactor.module id = r.module id :=
    h.unvisited id (List.mem_cons_self ..)
  have hstart : Visiting a r id s.progress.reactor s.progress.reactor s.ledger :=
    ⟨h.frame, fun _ _ => rfl, hmodule ▸ .refl id, h.ledger⟩
  rw [h.alignModule_eq]
  split
  · rename_i hroot
    refine (alignParent_spec fun x hx =>
      .parent hid hroot ((parentViolation_congr h.frame hmodule).mp hx)).bind ?_
    rintro p ⟨heffect, hreported, hparent⟩
    have hdeclarations : (p.reactor.module id).declarations = (r.module id).declarations :=
      (heffect.declarations (h.frame.size ▸ hid)).trans (congrArg _ hmodule)
    refine (alignBody_spec h (hstart.parent hmodule hid hroot heffect) hdeclarations
      (fun _ x hx => hparent x ((parentViolation_congr h.frame hmodule).mpr hx)) _).mono ?_
    rintro s' ⟨hwalk, hreported', hroot'⟩
    exact ⟨hwalk, hreported.trans hreported', hroot'⟩
  · rename_i hnot
    exact alignBody_spec h hstart (congrArg _ hmodule) (fun hroot => absurd hroot hnot) _

/-! ## The whole run -/

/-- Validating the demands reports no strict violation. -/
theorem validate_spec {P : Violation → Prop} (ledger : PropertyLedger) (r : Reactor)
    (level : ValidationLevel) (report : Report) :
    Satisfies (fun x => Reported P report x.2) (Raised P)
      (ledger.validate r level report) := by
  cases level with
  | off => exact reported_of_eq rfl
  | warn =>
    exact reported_foldl (fun report => report)
      (fun report m => reported_warn (by decide) _ _ _) _ _
  | fail =>
    simp only [PropertyLedger.validate]
    split
    · exact reported_of_eq rfl
    · intro x hx
      exact absurd hx nofun

theorem reported_flush {P : Violation → Prop} (ledger : PropertyLedger) (p : Progress) :
    Reported P p.report (ledger.flush p).report := by
  refine reported_foldl Progress.report ?_ ledger.values p
  intro p m
  simp only [PropertyLedger.write]
  split
  · split <;> exact reported_of_eq rfl
  · -- a property that is not declared is warned of, whether or not it is written
    split <;> exact (reported_warn (by decide) _ _ _).trans (reported_of_eq rfl)

/-- What a run leaves: the modules are walked, and then the ledger is written. -/
structure Ran (a : DependencyAlignment) (p p' : Progress) : Prop where
  reported : Reported (MayViolate a p.reactor) p.report p'.report
  roots : ∀ id < p.reactor.size, RootReported a p.reactor p'.report id
  walked : ∃ (s : State) (q : Progress), Walk a p.reactor [] s ∧
    q.reactor = s.progress.reactor ∧ p'.reactor = (s.ledger.flush q).reactor

theorem walk_start {later : List Nat} {p : Progress} (hreactor : p.reactor = r)
    (hnodup : later.Nodup) (hinside : ∀ id ∈ later, id < r.size) :
    Walk a r later { progress := p } := by
  subst hreactor
  exact ⟨hnodup, hinside, .refl _, fun _ _ => rfl,
    fun id => ⟨_, [], .refl id, rfl⟩, PropertyLedger.traced_empty _ _⟩

/-- All modules, one after the other. -/
theorem alignModules_spec {p : Progress} (h : Walk a r r.order { progress := p }) :
    Satisfies
      (fun s => Walk a r [] s ∧ Reported (MayViolate a r) p.report s.progress.report ∧
        ∀ id ∈ r.order, RootReported a r s.progress.report id)
      (Raised (MayViolate a r))
      (r.order.foldlM (a.alignModule (a.overridesFor r)) { progress := p }) := by
  let I : List Nat → State → Prop := fun later s =>
    Walk a r later s ∧ Reported (MayViolate a r) p.report s.progress.report ∧
      ∀ id ∈ r.order, id ∈ later ∨ RootReported a r s.progress.report id
  have hfold := Satisfies.foldlM (I := I) (E := Raised (MayViolate a r))
    (f := a.alignModule (a.overridesFor r)) ⟨h, reported_of_eq rfl, fun id hid => .inl hid⟩ ?_
  · refine hfold.mono ?_
    rintro s ⟨hwalk, hreported, hroots⟩
    exact ⟨hwalk, hreported, fun id hid => (hroots id hid).resolve_left List.not_mem_nil⟩
  · rintro id later s ⟨hwalk, hreported, hroots⟩
    refine (alignModule_spec hwalk).mono ?_
    rintro s' ⟨hwalk', hreported', hroot⟩
    refine ⟨hwalk', hreported.trans hreported', fun id' hid' => ?_⟩
    rcases hroots id' hid' with hmem | hbefore
    · rcases List.mem_cons.mp hmem with rfl | hlater
      · exact .inr hroot
      · exact .inl hlater
    · exact .inr (hbefore.mono hreported')

theorem walk_warnIgnored (a : DependencyAlignment) (p : Progress) :
    Walk a p.reactor p.reactor.order { progress := a.warnIgnored p } :=
  walk_start (a.reactor_warnIgnored p) p.reactor.nodup_order fun _ hid => lt_of_mem_order hid

/-- All visits, by induction on the order: none is left, and what is reported may be reported. -/
theorem gather_spec (a : DependencyAlignment) (p : Progress) :
    Satisfies
      (fun s => Walk a p.reactor [] s ∧
        Reported (MayViolate a p.reactor) p.report s.progress.report ∧
        ∀ id ∈ p.reactor.order, RootReported a p.reactor s.progress.report id)
      (Raised (MayViolate a p.reactor)) (a.gather p) := by
  have hignored : Reported (MayViolate a p.reactor) p.report (a.warnIgnored p).report := by
    rw [warnIgnored]
    split
    · exact reported_warn (by decide) _ _ _
    · exact reported_of_eq rfl
  refine (alignModules_spec (walk_warnIgnored a p)).mono ?_
  rintro s ⟨hwalk, hreported, hroots⟩
  exact ⟨hwalk, hignored.trans hreported, hroots⟩

theorem entries_visit_of_isEmpty (hempty : (a.overridesFor r).isEmpty = true) (id : Nat) :
    (a.visit r id).overrides.entries = [] := by
  have hentries : (a.overridesFor r).entries = [] := by
    simpa [OverrideMap.isEmpty] using hempty
  simp [visit, ExplicitRules.applyExclusions, OverrideMap.retain, hentries]

/-- Without overrides there is no check to fail. -/
theorem rootReported_of_isEmpty (hempty : (a.overridesFor r).isEmpty = true) (report : Report)
    (id : Nat) : RootReported a r report id := by
  rintro _ x hx
  obtain ⟨parent, others, _, _, _, hcandidates, _⟩ := hx.failed
  simp [Visit.parentCandidates, OverrideMap.entriesOf, entries_visit_of_isEmpty hempty,
    candidateVersions] at hcandidates

/-- Everything that a run does, or how it fails. The results on alignment start from this, unless
they need the exact outcome. -/
theorem run_spec (a : DependencyAlignment) (p : Progress) :
    Satisfies (Ran a p) (Raised (MayViolate a p.reactor)) (a.run p) := by
  have hbegun : Reported (MayViolate a p.reactor) p.report (a.begun p).report := by
    rw [begun]
    split
    · exact reported_warn (by decide) _ _ _
    · exact reported_of_eq rfl
  rw [run_eq]
  split
  · rename_i hempty
    obtain ⟨hempty, _⟩ := Bool.and_eq_true_iff.mp hempty
    exact ⟨hbegun, fun id _ => rootReported_of_isEmpty hempty _ id, { progress := a.begun p },
      a.begun p, walk_start (a.reactor_begun p) .nil (by simp), rfl, rfl⟩
  · have hgather := a.gather_spec (a.begun p)
    rw [reactor_begun] at hgather
    refine hgather.bind ?_
    rintro s ⟨hwalk, hwalked, hroots⟩
    refine (validate_spec _ _ _ _).map ?_
    rintro ⟨mismatches, report⟩ hvalidated
    have hsettled := hvalidated.trans
      (reported_flush s.ledger { s.progress with report })
    refine ⟨(hbegun.trans hwalked).trans hsettled, fun id hid hroot => ?_, s,
      { s.progress with report }, hwalk, rfl, rfl⟩
    exact (hroots id (p.reactor.mem_order hid)).mono hsettled hroot

end DependencyAlignment

end BuildAlign
