import BuildAlign.Proofs.Alignment.Result
import BuildAlign.Proofs.Module.Addresses
import BuildAlign.Proofs.Pass.Completeness

/-!
What a run of the alignment reports, as a function of the reactor that it starts from. A visit
reports the move of the declared parent, then every version text that is written, in the order of
the declarations and with the text of before, then every added dependency. Writing the ledger
reports properties only, each with the value of its mapping, and none that changes is left out.
-/

namespace BuildAlign

/-- The second report has these changes more than the first one. -/
def Logged (new : List Change) (p p' : Progress) : Prop :=
  p'.report.changes = p.report.changes ++ new

namespace Logged

variable {new new' : List Change} {p p' p'' : Progress}

theorem of_eq (h : p'.report.changes = p.report.changes) : Logged [] p p' :=
  h.trans (List.append_nil _).symm

theorem trans (h : Logged new p p') (h' : Logged new' p' p'') : Logged (new ++ new') p p'' := by
  rw [Logged, h', h, List.append_assoc]

end Logged

/-! ## One declaration -/

def Request.change? (x : Request) (site : Site) : Option Change :=
  x.text?.map fun new =>
    { module := site.module
      artifact := site.moduleArtifact
      target := .declaration site.declaration.address site.artifact
      old := site.declaration.version
      new := some new }

namespace DependencyAlignment

open Reactor

variable {a : DependencyAlignment} {v : Visit}

/-- A text is reported exactly if it is written. The slot has to hold the text of before, as the
report quotes it. -/
theorem perform_logged {site : Site} {s : State} {evaluate : Evaluation → Evaluated} {x : Request}
    {E : AlignError → Prop}
    (hslot : (s.progress.reactor.module site.module).slot? site.declaration.address =
      some site.declaration.version)
    (hstep : Satisfies (x.Fulfilled s.progress.reactor s.ledger) E
      (evaluate { ledger := s.ledger, report := s.progress.report }))
    (hevaluate : ∀ x, Satisfies (fun y => y.2.report.changes = x.report.changes) (fun _ => True)
      (evaluate x)) :
    Satisfies (fun s' => Logged (x.change? site).toList s.progress s'.progress) (fun _ => True)
      (perform site s evaluate) := by
  refine ((hstep.and (hevaluate _)).monoError fun _ _ => trivial).bind ?_
  rintro ⟨step, after⟩ ⟨⟨htext, _⟩, hchanges⟩
  rw [Request.change?, ← htext]
  cases step with
  | done o => exact .of_eq hchanges
  | replace version =>
    have hold : ((s.progress.reactor.module site.module).slot? site.declaration.address).join =
        site.declaration.version := by
      rw [hslot]
      rfl
    have hreported : Logged [] s.progress { s.progress with report := after.report } :=
      .of_eq hchanges
    refine hreported.trans ?_
    simp [Logged, applyStep, Progress.edit, Report.change, Report.tally, hold]

theorem alignEntries_logged (a : DependencyAlignment) (v : Visit) (s : State) (site : Site)
    (hslot : (s.progress.reactor.module site.module).slot? site.declaration.address =
      some site.declaration.version) :
    let entries := v.overrides.entriesOf site.artifact
    let x := a.evaluator.requestTo site
      (a.evaluator.unforcedTarget? s.progress.reactor site entries v.rules)
    Satisfies (fun s' => Logged (x.change? site).toList s.progress s'.progress) (fun _ => True)
      (if entries.isEmpty then pure s
        else perform site s (a.evaluator.evaluate s.progress.reactor · site entries v.rules)) := by
  intro entries x
  split
  · rename_i hempty
    have hx : x = .nothing := by
      refine a.evaluator.requestTo_of_none site fun old _ => ?_
      simp [List.isEmpty_iff.mp hempty, Evaluator.unforcedTarget?, Evaluator.entryTarget?,
        candidateVersions, StrictPolicy.choose?]
    rw [hx]
    exact .of_eq rfl
  · exact perform_logged hslot (a.evaluator.evaluate_exact _ _ site entries v.rules)
      fun _ => a.evaluator.evaluate_changes ..

/-- Aligning a declaration reports the text that it asks for. -/
theorem alignDeclaration_logged {s : State} {d : Declaration}
    (hslot : (s.progress.reactor.module v.module).slot? d.address = some d.version) :
    Satisfies
      (fun s' => Logged
        ((a.requestOf v s.progress.reactor d).change?
          (Site.of s.progress.reactor v.module v.artifact d)).toList s.progress s'.progress)
      (fun _ => True) (a.alignDeclaration v s d) := by
  rw [alignDeclaration_eq, requestOf]
  generalize hsite : Site.of s.progress.reactor v.module v.artifact d = site
  have hslot : (s.progress.reactor.module site.module).slot? site.declaration.address =
      some site.declaration.version := hsite ▸ hslot
  have hentries := (a.alignEntries_exact v s site).and (a.alignEntries_logged v s site hslot)
  dsimp only at hentries ⊢
  cases hforced : v.rules.versionFor? site.artifact with
  | none =>
    rw [a.unforcedTarget?_of_unforced hforced] at hentries
    exact (hentries.monoError fun _ _ => trivial).bind fun s₁ hs₁ => hs₁.2
  | some version =>
    rw [a.requestTo_of_forced hforced] at hentries
    rw [a.target?_of_forced hforced]
    refine (hentries.monoError fun _ _ => trivial).bind ?_
    rintro s₁ ⟨⟨hreactor, _⟩, hlogged⟩
    have hreactor : s₁.progress.reactor = s.progress.reactor := hreactor
    rw [← hreactor] at hslot
    refine (perform_logged hslot (a.evaluator.evaluateExplicit_exact _ _ site version)
      fun _ => a.evaluator.evaluateExplicit_changes ..).mono ?_
    exact fun s₂ hlogged₂ => hlogged.trans hlogged₂

/-! ## One module -/

variable (a) (r : Reactor) (id : Nat)

def parentChange? (r : Reactor) (v : Visit) : Option Change :=
  (a.parentMove? r v).map fun new =>
    { module := v.module
      artifact := v.artifact
      target := .parentVersion
      old := (r.module v.module).parent.map Parent.version
      new := some new }

def additionChange (v : Visit) (d : Dependency) : Change where
  module := v.module
  artifact := v.artifact
  target := .injectedManaged { group := d.group, name := d.name }
  old := none
  new := d.version

def declarationChange? (d : Declaration) : Option Change :=
  (a.request r id d).change? (Site.of (a.asVisited r id) id (r.artifact id) d)

/-- What is reported of the declarations of a module and of those that are added to it. -/
def changesBehindParent : List Change :=
  (r.module id).declarations.filterMap (a.declarationChange? r id)
    ++ (a.added r id).map (additionChange (a.visit r id))

def changesIn : List Change :=
  (if r.isRoot id then (a.parentChange? r (a.visit r id)).toList else [])
    ++ a.changesBehindParent r id

variable {a r id}

/-- What a visit reports is the move of the parent, a text that is written, or an addition. -/
theorem mem_changesIn_cases {c : Change} (hc : c ∈ a.changesIn r id) :
    (∃ old new, c = ⟨id, r.artifact id, .parentVersion, old, some new⟩) ∨
    (∃ d ∈ (r.module id).declarations, a.declarationChange? r id d = some c) ∨
    ∃ d ∈ a.added r id, additionChange (a.visit r id) d = c := by
  rcases List.mem_append.mp hc with hc | hc
  · left
    split at hc
    · obtain ⟨new, _, rfl⟩ := Option.map_eq_some_iff.mp (Option.mem_toList.mp hc)
      exact ⟨_, new, rfl⟩
    · cases hc
  · right
    rcases List.mem_append.mp hc with hc | hc
    · exact .inl (List.mem_filterMap.mp hc)
    · exact .inr (List.mem_map.mp hc)

/-- The move of a declared parent is the one change that a visit reports in front of its
declarations. -/
theorem alignParent_logged (a : DependencyAlignment) (v : Visit) (p : Progress) :
    Satisfies (Logged (a.parentChange? p.reactor v).toList p) (fun _ => True)
      (a.alignParent v p) := by
  rw [alignParent, parentChange?, parentMove?]
  split
  · rename_i hnone
    rw [hnone]
    exact .of_eq rfl
  · rename_i parent hparent
    have htarget := (a.parentTarget_exact v p parent).and (a.parentTarget_changes v p parent)
    refine (htarget.monoError fun _ _ => trivial).bind ?_
    rintro ⟨target, report⟩ ⟨htarget, hchanges⟩
    have hreported : Logged [] p { p with report } := .of_eq hchanges
    dsimp only at htarget ⊢
    rw [hparent, Option.bind_some, ← htarget]
    cases (v.rules.versionFor? parent.artifact).or target with
    | none => exact hreported
    | some new =>
      dsimp only
      split
      · rename_i hsame
        rw [Option.filter_some_neg (by simpa using hsame)]
        exact hreported
      · rename_i hother
        rw [Option.filter_some_pos (by simpa using hother)]
        exact hreported.trans rfl

theorem inject_logged (v : Visit) (managed : KeySet Artifact) (p : Progress) :
    Logged ((injections v.overrides managed).map (additionChange v)) p (inject v managed p) := by
  rw [inject]
  generalize injections v.overrides managed = added
  generalize p.reactor.modifyBody v.module .main _ = reactor
  have hfold : ∀ (ds : List Dependency) (p : Progress),
      Logged (ds.map (additionChange v)) p
        (ds.foldl (fun p d => p.edit reactor v.module v.artifact
          (.injectedManaged { group := d.group, name := d.name }) none d.version) p) := by
    intro ds
    induction ds with
    | nil => exact fun p => .of_eq rfl
    | cons d later ih =>
      intro p
      have hfirst : Logged [additionChange v d] p
          (p.edit reactor v.module v.artifact
            (.injectedManaged { group := d.group, name := d.name }) none d.version) := rfl
      exact hfirst.trans (ih _)
  exact hfold added p

/-- The declarations of a module, some of which are still to be aligned and have the text of before.
-/
structure Logging (a : DependencyAlignment) (r : Reactor) (id : Nat) (before : State)
    (later : List Declaration) (s : State) : Prop where
  aligning : Aligning a r id before.progress.reactor before.ledger later s
  distinct : (later.map Declaration.address).Nodup
  unwritten : ∀ d ∈ later, d ∈ (s.progress.reactor.module id).declarations
  logged : ∃ new, Logged new before.progress s.progress ∧
    new ++ later.filterMap (a.declarationChange? r id) =
      (r.module id).declarations.filterMap (a.declarationChange? r id)

/-- One more declaration adds to the report the change that its request stands for, or none, after
those of the earlier ones. -/
theorem Logging.step {before s : State} {d : Declaration} {later : List Declaration}
    (h : Logging a r id before (d :: later) s) (hid : id < r.size) :
    Satisfies (Logging a r id before later) (fun _ => True)
      (a.alignDeclaration (a.visit r id) s d) := by
  obtain ⟨hd, hlater⟩ := List.forall_mem_cons.mp h.unwritten
  obtain ⟨hnot, hdistinct⟩ := List.nodup_cons.mp h.distinct
  obtain ⟨new, hlogged, hleft⟩ := h.logged
  have hview := h.aligning.view
  have hnow : id < s.progress.reactor.size := by
    rw [hview.frame.size, (a.sameFrame_asVisited r hid).size]
    exact hid
  have hrequest : a.requestOf (a.visit r id) s.progress.reactor d = a.request r id d :=
    requestOf_congr hview d
  have hsite : Site.of s.progress.reactor id (r.artifact id) d =
      Site.of (a.asVisited r id) id (r.artifact id) d := by
    rw [Site.of, Site.of, hview.declaredArtifact]
  have hgranted := a.alignDeclaration_exact (a.visit r id) s d
  have hreported := alignDeclaration_logged (a := a) (v := a.visit r id) (s := s) (d := d)
    (Module.slot?_of_mem_declarations hd)
  have hall := (h.aligning.step hid).and (hgranted.and hreported)
  refine (hall.monoError fun _ _ => trivial).mono ?_
  rintro s' ⟨haligning, ⟨hreactor, _⟩, hreported⟩
  rw [hrequest] at hreactor hreported
  have hreactor : s'.progress.reactor =
      (a.request r id d).applyTo s.progress.reactor id d.address := hreactor
  refine ⟨haligning, hdistinct, ?_, new ++ (a.declarationChange? r id d).toList, ?_, ?_⟩
  · intro d' hd'
    have hother : d'.address ≠ d.address := fun heq => hnot (heq ▸ List.mem_map_of_mem hd')
    rw [hreactor, (a.request r id d).module_applyTo hnow, if_pos rfl, Request.declarations_write]
    exact List.mem_map.mpr ⟨d', hlater d' hd', if_neg hother⟩
  · refine hlogged.trans ?_
    rw [declarationChange?, ← hsite]
    exact hreported
  · rw [← hleft, List.filterMap_cons, List.append_assoc]
    cases a.declarationChange? r id d <;> rfl

theorem alignBody_logged {s : State} {p : Progress} (h : Entered a r id p.reactor) :
    Satisfies (fun s' => Logged (a.changesBehindParent r id) p s'.progress) (fun _ => True)
      (a.alignBody (a.visit r id) (r.isRoot id) s p) := by
  have hstart : Logging a r id { s with progress := p } (p.reactor.module id).declarations
      { s with progress := p } := by
    refine ⟨?_, Module.nodup_address_declarations _, fun _ hd => hd, [], .of_eq rfl, ?_⟩
    · rw [h.declarations]
      exact h.aligning rfl
    · rw [h.declarations]
      rfl
  have haligned := Satisfies.foldlM (f := a.alignDeclaration (a.visit r id)) hstart
    fun _ _ _ h' => h'.step h.inside
  refine haligned.bind ?_
  rintro s₁ ⟨_, _, _, new, hlogged, hnew⟩
  have hnew : new = (r.module id).declarations.filterMap (a.declarationChange? r id) :=
    (List.append_nil new).symm.trans hnew
  rw [changesBehindParent, ← hnew, added]
  split
  · rw [← h.managedArtifacts]
    exact hlogged.trans (inject_logged ..)
  · rw [List.map_nil, List.append_nil]
    exact hlogged

/-- A module that is visited is still as it was, so its declared parent is moved as in the first
reactor. -/
theorem Walk.parentChange?_eq {later : List Nat} {s : State} (h : Walk a r (id :: later) s) :
    a.parentChange? s.progress.reactor (a.visit r id) = a.parentChange? r (a.visit r id) := by
  have hmodule : s.progress.reactor.module id = r.module id :=
    h.unvisited id (List.mem_cons_self ..)
  rw [parentChange?, parentChange?, parentMove?_congr h.frame hmodule, visit, hmodule]

theorem alignModule_logged {later : List Nat} {s : State} (h : Walk a r (id :: later) s) :
    Satisfies (fun s' => Logged (a.changesIn r id) s.progress s'.progress) (fun _ => True)
      (a.alignModule (a.overridesFor r) s id) := by
  have hparent : Satisfies
      (Logged (if r.isRoot id then (a.parentChange? r (a.visit r id)).toList else []) s.progress)
      (fun _ => True)
      (if r.isRoot id then a.alignParent (a.visit r id) s.progress else pure s.progress) := by
    split
    · rw [← h.parentChange?_eq]
      exact a.alignParent_logged ..
    · exact .of_eq rfl
  rw [h.alignModule_eq]
  refine ((h.entered.and hparent).monoError fun _ _ => trivial).bind ?_
  rintro p ⟨⟨hentered, _⟩, hlogged⟩
  exact (alignBody_logged hentered).mono fun s' hs' => hlogged.trans hs'

/-! ## Writing the ledger -/

end DependencyAlignment

namespace PropertyLedger

/-- The changes report properties with the values of mappings, and all of them that differ. -/
structure Writes (mappings : List PropertyMapping) (r r' : Reactor) (written : List Change) :
    Prop where
  mapped : ∀ c ∈ written, ∃ m ∈ mappings, c.module = m.module ∧ c.target = .property m.name ∧
    c.new = some m.new
  kept : ∀ id name, (∀ c ∈ written, c.module = id → c.target ≠ .property name) →
    (r'.module id).ownProperty? name = (r.module id).ownProperty? name

/-- What is written depends on the reactor only as far as its frame goes, so it can be told of the
reactor before the visits. -/
theorem Writes.congr {mappings : List PropertyMapping} {r₀ r r' : Reactor} {written : List Change}
    (h : Writes mappings r r' written) (hsame : r₀.SameFrame r) :
    Writes mappings r₀ r' written where
  mapped := h.mapped
  kept := fun id name hunreported =>
    (h.kept id name hunreported).trans ((hsame.modules id).properties name)

theorem writes_nothing (mappings : List PropertyMapping) (r : Reactor) :
    Writes mappings r r [] where
  mapped := fun _ hc => absurd hc List.not_mem_nil
  kept := fun _ _ _ => rfl

/-- What writing one mapping reports accounts for all that it changes. -/
theorem write_logged (p : Progress) (m : PropertyMapping) :
    ∃ written, Logged written p (write p m) ∧
      Writes [m] p.reactor (write p m).reactor written := by
  have hset : ∀ q : Progress, q.reactor = p.reactor → Writes [m] p.reactor
      (q.reactor.setProperty m.module (m.scope.getD .main) m.name m.new)
      [{ module := m.module, artifact := q.reactor.artifact m.module,
         target := .property m.name,
         old := (q.reactor.module m.module).property? (m.scope.getD .main) m.name,
         new := some m.new }] := by
    intro q hq
    rw [hq]
    constructor
    · intro c hc
      rw [List.mem_singleton.mp hc]
      exact ⟨_, List.mem_singleton.mpr rfl, rfl, rfl, rfl⟩
    · intro id name hunreported
      rcases p.reactor.module_setProperty_cases m.module (m.scope.getD .main) m.name m.new
        id with hsame | ⟨rfl, hmodule⟩
      · rw [hsame]
      · have hother : name ≠ m.name := by
          rintro rfl
          exact hunreported _ (List.mem_singleton.mpr rfl) rfl rfl
        rw [hmodule, Module.ownProperty?_setProperty_of_ne _ _ hother]
  simp only [write]
  split
  · split
    · exact ⟨[], .of_eq rfl, writes_nothing ..⟩
    · exact ⟨_, rfl, hset p rfl⟩
  · split
    · exact ⟨[], .of_eq rfl, writes_nothing ..⟩
    · exact ⟨_, rfl, hset (p.warn ..) rfl⟩

/-- The same for all mappings of a ledger, by induction on their list. -/
theorem flush_logged (ledger : PropertyLedger) (p : Progress) :
    ∃ written, Logged written p (ledger.flush p) ∧
      Writes ledger.values p.reactor (ledger.flush p).reactor written := by
  rw [flush]
  generalize ledger.values = mappings
  induction mappings generalizing p with
  | nil => exact ⟨[], .of_eq rfl, writes_nothing ..⟩
  | cons m later ih =>
    obtain ⟨written, hlogged, hwrites⟩ := write_logged p m
    obtain ⟨written', hlogged', hwrites'⟩ := ih (write p m)
    refine ⟨written ++ written', hlogged.trans hlogged', ?_, ?_⟩
    · intro c hc
      rcases List.mem_append.mp hc with hc | hc
      · obtain ⟨m', hm', hmapped⟩ := hwrites.mapped c hc
        exact ⟨m', List.mem_singleton.mp hm' ▸ List.mem_cons_self .., hmapped⟩
      · obtain ⟨m', hm', hmapped⟩ := hwrites'.mapped c hc
        exact ⟨m', List.mem_cons_of_mem _ hm', hmapped⟩
    · intro id name hunreported
      rw [List.foldl_cons,
        hwrites'.kept id name fun c hc => hunreported c (List.mem_append_right _ hc),
        hwrites.kept id name fun c hc => hunreported c (List.mem_append_left _ hc)]

end PropertyLedger

/-! ## The whole run -/

namespace DependencyAlignment

open Reactor

variable {a : DependencyAlignment} {r : Reactor}

/-- The changes of all visits, module after module in the order of visiting. -/
theorem gather_logged (a : DependencyAlignment) (p : Progress) :
    Satisfies
      (fun s => Logged (p.reactor.order.flatMap (a.changesIn p.reactor)) p s.progress)
      (fun _ => True) (a.gather p) := by
  generalize hr : p.reactor = r
  have hwalk := walk_warnIgnored a p
  have hignored : Logged [] p (a.warnIgnored p) := by
    rw [warnIgnored]
    split <;> exact .of_eq rfl
  rw [gather, hr]
  rw [hr] at hwalk
  let I : List Nat → State → Prop := fun later s =>
    Walk a r later s ∧ ∃ new, Logged new p s.progress ∧
      new ++ later.flatMap (a.changesIn r) = r.order.flatMap (a.changesIn r)
  have hfold := Satisfies.foldlM (I := I) (E := fun _ => True)
    (f := a.alignModule (a.overridesFor r)) ⟨hwalk, [], hignored, rfl⟩ ?_
  · refine hfold.mono ?_
    rintro s ⟨_, new, hlogged, hnew⟩
    rw [← hnew, List.flatMap_nil, List.append_nil]
    exact hlogged
  · rintro id later s ⟨hwalk, new, hlogged, hnew⟩
    have hvisit := (alignModule_spec hwalk).and (alignModule_logged hwalk)
    refine (hvisit.monoError fun _ _ => trivial).mono ?_
    rintro s' ⟨⟨hwalk', _⟩, hlogged'⟩
    refine ⟨hwalk', new ++ a.changesIn r id, hlogged.trans hlogged', ?_⟩
    rw [← hnew, List.flatMap_cons, List.append_assoc]

/-- What a run reports: what the visits report, and the properties that it writes. -/
structure Reports (a : DependencyAlignment) (p p' : Progress) (written : List Change) : Prop where
  logged : Logged (p.reactor.order.flatMap (a.changesIn p.reactor) ++ written) p p'
  writes : PropertyLedger.Writes (a.ledgerOf p.reactor).values p.reactor p'.reactor written

theorem changesIn_of_isEmpty (hoverrides : (a.overridesFor r).isEmpty = true)
    (hrules : a.rules.isEmpty = true) (id : Nat) : a.changesIn r id = [] := by
  have hparent : a.parentChange? r (a.visit r id) = none := by
    rw [parentChange?, parentMove?_of_isEmpty hoverrides hrules]
    rfl
  have hdeclarations : (r.module id).declarations.filterMap (a.declarationChange? r id) = [] := by
    refine List.filterMap_eq_nil_iff.mpr fun d _ => ?_
    rw [declarationChange?, request_of_isEmpty hoverrides hrules]
    rfl
  rw [changesIn, changesBehindParent, hparent, hdeclarations, added_of_isEmpty hoverrides]
  split <;> rfl

theorem settle_logged (a : DependencyAlignment) (s : State) :
    Satisfies
      (fun p' => ∃ written, Logged written s.progress p' ∧
        PropertyLedger.Writes s.ledger.values s.progress.reactor p'.reactor written)
      (fun _ => True) (a.settle s) := by
  refine (PropertyLedger.validate_changes s.ledger s.progress.reactor
    a.config.propertyValidation s.progress.report).map ?_
  rintro ⟨mismatches, report⟩ hchanges
  have hreported : Logged [] s.progress { s.progress with report } := .of_eq hchanges
  obtain ⟨written, hlogged, hwrites⟩ :=
    PropertyLedger.flush_logged s.ledger { s.progress with report }
  exact ⟨written, hreported.trans hlogged, hwrites⟩

theorem begun_logged (a : DependencyAlignment) (p : Progress) : Logged [] p (a.begun p) := by
  rw [begun]
  split <;> exact .of_eq rfl

/-- The report of a whole run: first the changes of the visits, then the properties that are
written. -/
theorem run_logged (a : DependencyAlignment) (p : Progress) :
    Satisfies (fun p' => ∃ written, Reports a p p' written) (fun _ => True) (a.run p) := by
  rw [run_eq]
  split
  · rename_i hempty
    obtain ⟨hoverrides, hrules⟩ := Bool.and_eq_true_iff.mp hempty
    have hvisits : p.reactor.order.flatMap (a.changesIn p.reactor) = [] :=
      List.flatMap_eq_nil_iff.mpr fun id _ => changesIn_of_isEmpty hoverrides hrules id
    refine ⟨[], ?_, ?_⟩
    · rw [hvisits]
      exact a.begun_logged p
    · rw [reactor_begun]
      exact PropertyLedger.writes_nothing ..
  · have hgather := (a.gather_exact (a.begun p)).and (a.gather_logged (a.begun p))
    rw [reactor_begun] at hgather
    refine (hgather.monoError fun _ _ => trivial).bind ?_
    rintro s ⟨hgathered, hlogged⟩
    refine (a.settle_logged s).mono ?_
    rintro p' ⟨written, hlogged', hwrites⟩
    rw [hgathered.ledger] at hwrites
    exact ⟨written, (a.begun_logged p).trans (hlogged.trans hlogged'),
      hwrites.congr hgathered.walked.frame⟩

theorem reports_of_run {p p' : Progress} (hrun : a.run p = .ok p') :
    ∃ written, Reports a p p' written := by
  have hreports := a.run_logged p
  rwa [hrun] at hreports

end DependencyAlignment

end BuildAlign
