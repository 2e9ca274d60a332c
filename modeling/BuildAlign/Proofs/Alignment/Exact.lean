import BuildAlign.Proofs.Alignment.Outcome
import BuildAlign.Proofs.Alignment.Request

/-!
What a whole run of the alignment leaves, as a function of the reactor that it starts from. Modules
are aligned independently of one another: what a module becomes depends on what it sees once its
declared parent is aligned, and the visits of other modules change nothing of that. So every module
ends as `alignedModule`, and the properties are written by `ledgerOf`, the record of all demands in
the order of visiting.
-/

namespace BuildAlign.DependencyAlignment

open Reactor

variable (a : DependencyAlignment) (r : Reactor)

/-! ## The declared parent -/

def parentMove? (v : Visit) : Option String :=
  (r.module v.module).parent.bind fun parent =>
    ((v.rules.versionFor? parent.artifact).or
      (a.strict.choose? (r.resolve v.module parent.version) (v.parentCandidates parent))).filter
        (· ≠ parent.version)

/-- A reactor with another version of the declared parent of a module, if there is one to write. -/
def moveParent (id : Nat) (new? : Option String) : Reactor :=
  match new? with
  | some new => r.setParentVersion id new
  | none => r

section

variable {r} {id : Nat} (hid : id < r.size) (new? : Option String)

include hid

theorem module_moveParent (id' : Nat) :
    (moveParent r id new?).module id' =
      if id' = id then new?.elim (r.module id) fun new => (r.module id).withParentVersion new
      else r.module id' := by
  cases new? with
  | none =>
    by_cases heq : id' = id
    · rw [if_pos heq, heq]
      rfl
    · rw [if_neg heq]
      rfl
  | some new => exact r.module_modify hid (Module.withParentVersion new) (fun _ => rfl) id'

theorem sameFrame_moveParent : r.SameFrame (moveParent r id new?) := by
  cases new? with
  | none => exact .refl r
  | some new =>
    exact r.sameFrame_modify hid (Module.withParentVersion new) (fun _ => rfl)
      (Module.sameFrame_withParentVersion new _)

end

/-- The overrides move a declared parent to the version that they choose for it. -/
theorem parentTarget_exact (v : Visit) (p : Progress) (parent : Parent) :
    Satisfies
      (fun x => x.1 = a.strict.choose? (p.reactor.resolve v.module parent.version)
        (v.parentCandidates parent))
      (fun _ => a.strict.failOnViolation = true) (a.parentTarget v p parent) := by
  simp only [parentTarget, Visit.parentCandidates]
  split
  · rename_i hcandidates
    simp [Satisfies, hcandidates, StrictPolicy.choose?]
  · rename_i first others hcandidates
    rw [hcandidates]
    split
    · rename_i target hchosen
      exact hchosen.symm
    · rename_i hnone
      rw [StrictPolicy.violation]
      split
      · assumption
      · exact hnone.symm

/-- The declared parent is moved to the version that the rules and the overrides name, and nothing
else changes. -/
theorem alignParent_exact (v : Visit) (p : Progress) :
    Satisfies
      (fun p' => p'.reactor = moveParent p.reactor v.module (a.parentMove? p.reactor v))
      (fun _ => a.strict.failOnViolation = true) (a.alignParent v p) := by
  rw [alignParent, parentMove?]
  split
  · rename_i hnone
    rw [hnone]
    exact rfl
  · rename_i parent hparent
    refine (a.parentTarget_exact v p parent).bind ?_
    rintro ⟨target, report⟩ htarget
    dsimp only at htarget ⊢
    rw [hparent, Option.bind_some, ← htarget]
    cases (v.rules.versionFor? parent.artifact).or target with
    | none => exact rfl
    | some new =>
      dsimp only
      split
      · rename_i hsame
        rw [Option.filter_some_neg (by simpa using hsame)]
        exact rfl
      · rename_i hother
        rw [Option.filter_some_pos (by simpa using hother)]
        exact rfl

/-- The reactor that the declarations of a module see when they are aligned: its declared parent is
aligned already, if the module is a root. What has become of other modules by then makes no
difference, as `Aligning.view` says. -/
def asVisited (id : Nat) : Reactor :=
  if r.isRoot id then moveParent r id (a.parentMove? r (a.visit r id)) else r

/-! ## One module -/

def request (id : Nat) (d : Declaration) : Request :=
  a.requestOf (a.visit r id) (a.asVisited r id) d

/-- A module after its declarations got what they ask for. -/
def alignedDeclared (id : Nat) : Module :=
  (r.module id).declarations.foldl (fun m d => (a.request r id d).write d.address m)
    ((a.asVisited r id).module id)

/-- The managed dependencies that are added to a module, if it is a root and they are to be added.
-/
def added (id : Nat) : List Dependency :=
  if a.injects && r.isRoot id then
    injections (a.visit r id).overrides (managedArtifacts (a.asVisited r id) id)
  else []

def alignedModule (id : Nat) : Module :=
  (a.alignedDeclared r id).manage (a.added r id)

/-! ## The demands -/

def demandsIn (id : Nat) : List Demand :=
  (r.module id).declarations.filterMap fun d => (a.request r id d).demand?

def demands : List Demand :=
  r.order.flatMap (a.demandsIn r)

def recordDemand (ledger : PropertyLedger) (d : Demand) : PropertyLedger :=
  (ledger.record (a.asVisited r d.module) d).2

def ledgerOf : PropertyLedger :=
  (a.demands r).foldl (a.recordDemand r) ∅

theorem recordIn_request {id : Nat} {d : Declaration} {now : Reactor}
    (h : (a.asVisited r id).SameView id now) (ledger : PropertyLedger) :
    (a.request r id d).recordIn now ledger =
      (a.request r id d).demand?.toList.foldl (a.recordDemand r) ledger := by
  have hasked := requestOf_asked a (a.visit r id) (a.asVisited r id) d
  rw [request]
  generalize a.requestOf (a.visit r id) (a.asVisited r id) d = x at hasked
  cases hasked with
  | nothing => rfl
  | rewrite => rfl
  | demand => exact congrArg Prod.snd (ledger.record_congr h)

variable {a r} {id : Nat}

/-- The declarations of a module, some of which are still to be aligned. -/
structure Aligning (a : DependencyAlignment) (r : Reactor) (id : Nat) (before : Reactor)
    (ledger : PropertyLedger) (later : List Declaration) (s : State) : Prop where
  declared : ∀ d ∈ later, d ∈ (r.module id).declarations
  view : (a.asVisited r id).SameView id s.progress.reactor
  others : ∀ id', id' ≠ id → s.progress.reactor.module id' = before.module id'
  module : later.foldl (fun m d => (a.request r id d).write d.address m)
    (s.progress.reactor.module id) = a.alignedDeclared r id
  ledger : (later.filterMap fun d => (a.request r id d).demand?).foldl (a.recordDemand r) s.ledger =
    (a.demandsIn r id).foldl (a.recordDemand r) ledger

/-- A visit sees a reactor with the frame of before, so what is looked up by way of links and
properties is the same. -/
theorem sameFrame_asVisited (a : DependencyAlignment) (r : Reactor) {id : Nat} (hid : id < r.size) :
    r.SameFrame (a.asVisited r id) := by
  rw [asVisited]
  split
  · exact sameFrame_moveParent hid _
  · exact .refl r

/-- Nothing of the module has changed but the version of its declared parent. -/
theorem module_asVisited_cases (a : DependencyAlignment) {r : Reactor} {id : Nat}
    (hid : id < r.size) :
    (a.asVisited r id).module id = r.module id ∨
      ∃ new, (a.asVisited r id).module id = (r.module id).withParentVersion new := by
  rw [asVisited]
  split
  · rw [module_moveParent hid, if_pos rfl]
    cases a.parentMove? r (a.visit r id) with
    | none => exact .inl rfl
    | some new => exact .inr ⟨new, rfl⟩
  · exact .inl rfl

theorem declarations_asVisited (a : DependencyAlignment) {r : Reactor} {id : Nat}
    (hid : id < r.size) :
    ((a.asVisited r id).module id).declarations = (r.module id).declarations := by
  rcases a.module_asVisited_cases hid with hsame | ⟨new, hmoved⟩
  · rw [hsame]
  · rw [hmoved]
    rfl

/-- One more declaration of the visit: after it, the earlier ones have what they ask for and the
ledger has their demands. A failure has one of the two causes that a whole run has. -/
theorem Aligning.step {before : Reactor} {ledger : PropertyLedger} {d : Declaration}
    {later : List Declaration} {s : State} (h : Aligning a r id before ledger (d :: later) s)
    (hid : id < r.size) :
    Satisfies (Aligning a r id before ledger later)
      (fun _ => a.strict.failOnViolation = true ∨ a.demandsIn r id ≠ [])
      (a.alignDeclaration (a.visit r id) s d) := by
  obtain ⟨hd, hlater⟩ := List.forall_mem_cons.mp h.declared
  have hrequest : a.requestOf (a.visit r id) s.progress.reactor d = a.request r id d :=
    requestOf_congr h.view d
  have hnow : id < s.progress.reactor.size := by
    rw [h.view.frame.size, (a.sameFrame_asVisited r hid).size]
    exact hid
  have haligned : Satisfies (Granted (a.request r id d) id d.address s)
      (fun _ => (a.request r id d).MayFail a.strict)
      (a.alignDeclaration (a.visit r id) s d) := by
    rw [← hrequest]
    exact a.alignDeclaration_exact (a.visit r id) s d
  refine (haligned.mono ?_).monoError ?_
  · rintro s' ⟨hreactor, hledger⟩
    have hmodule := fun id' => (a.request r id d).module_applyTo hnow d.address id'
    constructor
    · exact hlater
    · rw [hreactor]
      exact h.view.trans ((a.request r id d).sameView_applyTo hnow d.address)
    · intro id' hne
      rw [hreactor]
      exact (hmodule id').trans ((if_neg hne).trans (h.others id' hne))
    · rw [hreactor, hmodule, if_pos rfl]
      exact h.module
    · rw [hledger, a.recordIn_request r h.view, ← h.ledger, List.filterMap_cons]
      cases (a.request r id d).demand? <;> rfl
  · rintro e (hfatal | hdemand)
    · exact .inl hfatal
    · obtain ⟨q, hq⟩ := Option.isSome_iff_exists.mp hdemand
      exact .inr (List.ne_nil_of_mem (List.mem_filterMap.mpr ⟨d, hd, hq⟩))

theorem alignDeclarations_exact {before : Reactor} {ledger : PropertyLedger} {s : State}
    (h : Aligning a r id before ledger (r.module id).declarations s) (hid : id < r.size) :
    Satisfies (Aligning a r id before ledger [])
      (fun _ => a.strict.failOnViolation = true ∨ a.demandsIn r id ≠ [])
      ((r.module id).declarations.foldlM (a.alignDeclaration (a.visit r id)) s) :=
  Satisfies.foldlM (I := Aligning a r id before ledger) h fun _ _ _ h => h.step hid

/-- The declared parent is moved alike in a reactor in which the module is still as it was. -/
theorem parentMove?_congr {now : Reactor} (hframe : r.SameFrame now)
    (hmodule : now.module id = r.module id) :
    a.parentMove? now (a.visit r id) = a.parentMove? r (a.visit r id) := by
  have hresolve : now.resolve id = r.resolve id := funext (hframe.resolve hmodule)
  simp only [parentMove?, visit, hmodule, hresolve]

/-- After the visit of a module: it is what it becomes, its demands are recorded, and no other module
has changed. -/
structure Visited (a : DependencyAlignment) (r : Reactor) (id : Nat) (s s' : State) : Prop where
  others : ∀ id', id' ≠ id → s'.progress.reactor.module id' = s.progress.reactor.module id'
  module : s'.progress.reactor.module id = a.alignedModule r id
  ledger : s'.ledger = (a.demandsIn r id).foldl (a.recordDemand r) s.ledger

/-- The visit of a module once its declared parent is aligned, before any of its declarations is. -/
structure Entered (a : DependencyAlignment) (r : Reactor) (id : Nat) (now : Reactor) : Prop where
  inside : id < r.size
  frame : r.SameFrame now
  module : now.module id = (a.asVisited r id).module id

namespace Entered

variable {now : Reactor} (h : Entered a r id now)

include h

theorem view : (a.asVisited r id).SameView id now :=
  ((a.sameFrame_asVisited r h.inside).symm.trans h.frame).view h.module

theorem declarations : (now.module id).declarations = (r.module id).declarations := by
  rw [h.module, a.declarations_asVisited h.inside]

theorem managedArtifacts : managedArtifacts now id = managedArtifacts (a.asVisited r id) id := by
  have hdeclared : now.declaredArtifact id = (a.asVisited r id).declaredArtifact id :=
    funext h.view.declaredArtifact
  rw [DependencyAlignment.managedArtifacts, DependencyAlignment.managedArtifacts, h.module,
    hdeclared]

/-- At the start of a visit all declarations are still to be aligned. -/
theorem aligning {s : State} (hs : s.progress.reactor = now) :
    Aligning a r id now s.ledger (r.module id).declarations s := by
  subst hs
  refine ⟨fun _ hd => hd, h.view, fun _ _ => rfl, ?_, rfl⟩
  rw [h.module, alignedDeclared]

end Entered

/-- The rest of a visit, from the state that the declared parent leaves. -/
theorem alignBody_exact {s : State} {p : Progress} (h : Entered a r id p.reactor)
    (hothers : ∀ id', id' ≠ id → p.reactor.module id' = s.progress.reactor.module id') :
    Satisfies (Visited a r id s) (fun _ => a.strict.failOnViolation = true ∨ a.demandsIn r id ≠ [])
      (a.alignBody (a.visit r id) (r.isRoot id) s p) := by
  have haligned := alignDeclarations_exact (h.aligning (s := { s with progress := p }) rfl) h.inside
  rw [← h.declarations] at haligned
  refine haligned.bind ?_
  intro s₁ hs₁
  have hothers₁ : ∀ id', id' ≠ id →
      s₁.progress.reactor.module id' = s.progress.reactor.module id' :=
    fun id' hne => (hs₁.others id' hne).trans (hothers id' hne)
  have hmodule₁ : s₁.progress.reactor.module id = a.alignedDeclared r id := hs₁.module
  split
  · rename_i hinjects
    have hnow : id < s₁.progress.reactor.size := by
      rw [hs₁.view.frame.size, (a.sameFrame_asVisited r h.inside).size]
      exact h.inside
    obtain ⟨_, hinjected⟩ := inject_spec (v := a.visit r id) hnow (managedArtifacts p.reactor id)
    constructor
    · intro id' hne
      exact (hinjected.others id' hne).trans (hothers₁ id' hne)
    · rw [alignedModule, added, if_pos hinjects, ← h.managedArtifacts, ← hmodule₁]
      exact hinjected.added
    · exact hs₁.ledger
  · rename_i hnot
    refine ⟨hothers₁, ?_, hs₁.ledger⟩
    rw [alignedModule, added, if_neg hnot, ← hmodule₁]
    rfl

/-- A visit starts with the declared parent, and changes nothing else by it. -/
theorem Walk.entered {later : List Nat} {s : State} (h : Walk a r (id :: later) s) :
    Satisfies
      (fun p => Entered a r id p.reactor ∧
        ∀ id', id' ≠ id → p.reactor.module id' = s.progress.reactor.module id')
      (fun _ => a.strict.failOnViolation = true)
      (if r.isRoot id then a.alignParent (a.visit r id) s.progress else pure s.progress) := by
  obtain ⟨hid, _⟩ := List.forall_mem_cons.mp h.inside
  have hmodule : s.progress.reactor.module id = r.module id :=
    h.unvisited id (List.mem_cons_self ..)
  have hnow : id < s.progress.reactor.size := h.frame.size ▸ hid
  split
  · rename_i hroot
    refine (a.alignParent_exact (a.visit r id) s.progress).mono ?_
    intro p hp
    have hmove : p.reactor = moveParent s.progress.reactor id (a.parentMove? r (a.visit r id)) :=
      parentMove?_congr h.frame hmodule ▸ hp
    refine ⟨⟨hid, ?_, ?_⟩, ?_⟩
    · rw [hmove]
      exact h.frame.trans (sameFrame_moveParent hnow _)
    · rw [hmove, asVisited, if_pos hroot, module_moveParent hnow, module_moveParent hid, hmodule]
    · intro id' hne
      rw [hmove, module_moveParent hnow, if_neg hne]
  · rename_i hnot
    exact ⟨⟨hid, h.frame, by rw [hmodule, asVisited, if_neg hnot]⟩, fun _ _ => rfl⟩

theorem alignModule_exact {later : List Nat} {s : State} (h : Walk a r (id :: later) s) :
    Satisfies (Visited a r id s) (fun _ => a.strict.failOnViolation = true ∨ a.demandsIn r id ≠ [])
      (a.alignModule (a.overridesFor r) s id) := by
  rw [h.alignModule_eq]
  refine (h.entered.monoError fun _ => .inl).bind ?_
  rintro p ⟨hentered, hothers⟩
  exact alignBody_exact hentered hothers

/-! ## The whole run -/

/-- What is left after the visits: every module as it is after its visit, and the ledger of all
demands. -/
structure Gathered (a : DependencyAlignment) (r : Reactor) (s : State) : Prop where
  walked : Walk a r [] s
  modules : ∀ id < r.size, s.progress.reactor.module id = a.alignedModule r id
  ledger : s.ledger = a.ledgerOf r

/-- All visits, by induction on what is left of the order. -/
theorem alignModules_exact {p : Progress} (h : Walk a r r.order { progress := p }) :
    Satisfies (Gathered a r) (fun _ => a.strict.failOnViolation = true ∨ a.demands r ≠ [])
      (r.order.foldlM (a.alignModule (a.overridesFor r)) { progress := p }) := by
  let I : List Nat → State → Prop := fun later s =>
    Walk a r later s ∧ (∀ id ∈ later, id ∈ r.order) ∧
      (∀ id < r.size, id ∈ later ∨ s.progress.reactor.module id = a.alignedModule r id) ∧
      (later.flatMap (a.demandsIn r)).foldl (a.recordDemand r) s.ledger = a.ledgerOf r
  have hfold := Satisfies.foldlM (I := I)
    (E := fun _ => a.strict.failOnViolation = true ∨ a.demands r ≠ [])
    (f := a.alignModule (a.overridesFor r))
    ⟨h, fun _ hid => hid, fun id hid => .inl (r.mem_order hid), rfl⟩ ?_
  · refine hfold.mono ?_
    rintro s ⟨hwalk, _, hmodules, hledger⟩
    exact ⟨hwalk, fun id hid => (hmodules id hid).resolve_left List.not_mem_nil, hledger⟩
  · rintro id later s ⟨hwalk, hmem, hmodules, hledger⟩
    obtain ⟨hid, hlater⟩ := List.forall_mem_cons.mp hmem
    refine (((alignModule_spec hwalk).and (alignModule_exact hwalk)).mono ?_).monoError ?_
    · rintro s' ⟨⟨hwalk', _⟩, hothers, hmodule, hledger'⟩
      refine ⟨hwalk', hlater, fun id' hid' => ?_, ?_⟩
      · by_cases heq : id' = id
        · exact .inr (heq ▸ hmodule)
        · rw [hothers id' heq]
          exact (hmodules id' hid').imp_left fun h => (List.mem_cons.mp h).resolve_left heq
      · rw [hledger', ← List.foldl_append]
        exact hledger
    · rintro e ⟨_, hfatal | hdemands⟩
      · exact .inl hfatal
      · obtain ⟨d, hd⟩ := List.exists_mem_of_ne_nil _ hdemands
        exact .inr (List.ne_nil_of_mem (List.mem_flatMap.mpr ⟨id, hid, hd⟩))

theorem gather_exact (a : DependencyAlignment) (p : Progress) :
    Satisfies (Gathered a p.reactor)
      (fun _ => a.strict.failOnViolation = true ∨ a.demands p.reactor ≠ []) (a.gather p) :=
  alignModules_exact (walk_warnIgnored a p)

theorem mismatches_empty (r : Reactor) : (∅ : PropertyLedger).mismatches r = [] := by
  refine List.flatMap_eq_nil_iff.mpr fun id _ => List.filterMap_eq_nil_iff.mpr fun d _ => ?_
  rw [PropertyLedger.mismatch?]
  cases d.version.bind propertyOf? <;> rfl

/-- Without demands there is nothing to validate. -/
theorem settle_exact {s : State} (h : Gathered a r s) :
    Satisfies
      (fun p' => ∃ q : Progress, q.reactor = s.progress.reactor ∧
        p'.reactor = ((a.ledgerOf r).flush q).reactor)
      (fun _ => a.demands r ≠ []) (a.settle s) := by
  have hvalidate : Satisfies (fun _ => True) (fun _ => a.demands r ≠ [])
      (s.ledger.validate s.progress.reactor a.config.propertyValidation s.progress.report) := by
    simp only [PropertyLedger.validate]
    split
    · trivial
    · trivial
    · split
      · trivial
      · rename_i hmismatches
        intro hnone
        rw [h.ledger, ledgerOf, hnone, List.foldl_nil, mismatches_empty] at hmismatches
        cases hmismatches
  refine hvalidate.map ?_
  rintro ⟨mismatches, report⟩ _
  exact ⟨{ s.progress with report }, rfl, by rw [h.ledger]⟩

theorem module_lt_of_mem_demands {d : Demand} (hd : d ∈ a.demands r) : d.module < r.size := by
  obtain ⟨id, hid, hd⟩ := List.mem_flatMap.mp hd
  obtain ⟨declared, _, hd⟩ := List.mem_filterMap.mp hd
  have hasked := requestOf_asked a (a.visit r id) (a.asVisited r id) declared
  rw [request] at hd
  generalize a.requestOf (a.visit r id) (a.asVisited r id) declared = x at hasked hd
  cases hasked with
  | nothing | rewrite => cases hd
  | demand =>
    obtain rfl := Option.some.inj hd
    exact Reactor.lt_of_mem_order hid

/-- Every mapping can be written. -/
theorem fits_ledgerOf (a : DependencyAlignment) (r : Reactor) : (a.ledgerOf r).Fits r := by
  have hfold : ∀ (ds : List Demand) (ledger : PropertyLedger), (∀ d ∈ ds, d.module < r.size) →
      ledger.Traced r (fun _ _ => True) →
      (ds.foldl (a.recordDemand r) ledger).Traced r (fun _ _ => True) := by
    intro ds
    induction ds with
    | nil => exact fun _ _ hledger => hledger
    | cons d later ih =>
      intro ledger hinside hledger
      obtain ⟨hd, hlater⟩ := List.forall_mem_cons.mp hinside
      exact ih _ hlater (hledger.record (a.sameFrame_asVisited r hd) hd trivial)
  have htraced := hfold (a.demands r) ∅ (fun d hd => module_lt_of_mem_demands hd)
    (PropertyLedger.traced_empty r _)
  exact htraced.toFits

theorem writable_ledgerOf {owner : PropertyOwner} {m : PropertyMapping}
    (h : (a.ledgerOf r).get? owner = some m) : PropertyLedger.Writable r owner m.scope :=
  (a.fits_ledgerOf r).writable owner m.scope m.new (congrArg (Option.map _) h)

/-- The reactor after a run: every module as it is after its visit, and then the properties of the
ledger. -/
structure Left (a : DependencyAlignment) (r r' : Reactor) : Prop where
  written : ∃ q : Progress, r.SameFrame q.reactor ∧
    (∀ id < r.size, q.reactor.module id = a.alignedModule r id) ∧
    r' = ((a.ledgerOf r).flush q).reactor

section

variable (hoverrides : (a.overridesFor r).isEmpty = true)

include hoverrides

theorem choose?_of_isEmpty (id : Nat) (artifact : Artifact) (present : String) :
    a.strict.choose? present (candidateVersions ((a.visit r id).overrides.entriesOf artifact)) =
      none := by
  simp [OverrideMap.entriesOf, entries_visit_of_isEmpty hoverrides, candidateVersions,
    StrictPolicy.choose?]

theorem added_of_isEmpty (id : Nat) : a.added r id = [] := by
  simp [added, injections, entries_visit_of_isEmpty hoverrides]

variable (hrules : a.rules.isEmpty = true)

include hrules

theorem request_of_isEmpty (id : Nat) (d : Declaration) : a.request r id d = .nothing := by
  refine a.evaluator.requestTo_of_none _ fun old _ => ?_
  simp only [target?, versionFor?_visit hrules]
  rw [Evaluator.entryTarget?, evaluator, choose?_of_isEmpty hoverrides]
  split <;> rfl

theorem parentMove?_of_isEmpty (id : Nat) : a.parentMove? r (a.visit r id) = none := by
  rw [parentMove?, Option.bind_eq_none_iff]
  intro parent _
  rw [versionFor?_visit hrules, Visit.parentCandidates, choose?_of_isEmpty hoverrides]
  rfl

theorem asVisited_of_isEmpty (id : Nat) : a.asVisited r id = r := by
  rw [asVisited, parentMove?_of_isEmpty hoverrides hrules]
  split <;> rfl

theorem alignedModule_of_isEmpty (id : Nat) : a.alignedModule r id = r.module id := by
  have hdeclared : a.alignedDeclared r id = r.module id := by
    have hkept : ∀ d ∈ (r.module id).declarations, (a.request r id d).text? = none := by
      intro d _
      rw [request_of_isEmpty hoverrides hrules]
      rfl
    rw [alignedDeclared, Request.foldl_write_eq_self _ hkept,
      asVisited_of_isEmpty hoverrides hrules]
  rw [alignedModule, added_of_isEmpty hoverrides, hdeclared]
  rfl

theorem ledgerOf_of_isEmpty : a.ledgerOf r = ∅ := by
  have hdemands : a.demands r = [] := by
    refine List.flatMap_eq_nil_iff.mpr fun id _ => List.filterMap_eq_nil_iff.mpr fun d _ => ?_
    rw [request_of_isEmpty hoverrides hrules]
    rfl
  rw [ledgerOf, hdemands, List.foldl_nil]

end

/-- A run leaves exactly what is computed from the reactor of before, and it fails only by a fatal
check or by a demand. -/
theorem run_exact (a : DependencyAlignment) (p : Progress) :
    Satisfies (fun p' => Left a p.reactor p'.reactor)
      (fun _ => a.strict.failOnViolation = true ∨ a.demands p.reactor ≠ []) (a.run p) := by
  rw [run_eq]
  split
  · rename_i hempty
    obtain ⟨hoverrides, hrules⟩ := Bool.and_eq_true_iff.mp hempty
    refine ⟨a.begun p, ?_, ?_, ?_⟩
    · rw [reactor_begun]
      exact .refl _
    · intro id hid
      rw [reactor_begun, alignedModule_of_isEmpty hoverrides hrules]
    · rw [ledgerOf_of_isEmpty hoverrides hrules]
      rfl
  · have hgather := a.gather_exact (a.begun p)
    rw [reactor_begun] at hgather
    refine hgather.bind ?_
    intro s hs
    refine ((settle_exact hs).mono ?_).monoError fun _ => .inr
    rintro p' ⟨q, hq, hp'⟩
    refine ⟨q, hq ▸ hs.walked.frame, fun id hid => ?_, hp'⟩
    rw [hq, hs.modules id hid]

theorem left_of_run {a : DependencyAlignment} {p p' : Progress} (hrun : a.run p = .ok p') :
    Left a p.reactor p'.reactor := by
  have hexact := a.run_exact p
  rwa [hrun] at hexact

end BuildAlign.DependencyAlignment
