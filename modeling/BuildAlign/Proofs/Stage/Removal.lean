import BuildAlign.Proofs.Module.Slots
import BuildAlign.Proofs.Reactor.View
import BuildAlign.Proofs.Satisfies
import BuildAlign.Proofs.Table
import BuildAlign.Stage.Removal

/-!
What the removals leave. Plugins are tested against the reactor that is under change; but no removal
changes the view of a module, so every test has the answer that it had before the first removal, and
each list is filtered by that answer.
-/

namespace BuildAlign

/-! ## Changes of modules -/

namespace Module

def mapBodies (edit : Body → Body) (m : Module) : Module :=
  { m with
    body := edit m.body
    profiles := m.profiles.map fun p => { p with body := edit p.body } }

theorem bodies_mapBodies (edit : Body → Body) (m : Module) :
    (m.mapBodies edit).bodies = m.bodies.map fun e => (e.1, edit e.2) := by
  simp [bodies, mapBodies, List.mapIdx_eq_zipIdx_map, List.zipIdx_map]

theorem mapBodies_mapBodies (edit edit' : Body → Body) (m : Module) :
    (m.mapBodies edit).mapBodies edit' = m.mapBodies (edit' ∘ edit) := by
  simp [mapBodies]

/-- Changes in one scope after the other change every body once. -/
theorem foldl_modifyBody (edit : Body → Body) (m : Module) :
    (m.bodies.map Prod.fst).foldl (fun m scope => m.modifyBody edit scope) m =
      m.mapBodies edit := by
  have hscopes : m.bodies.map Prod.fst = .main :: m.profiles.mapIdx fun i _ => .profile i := by
    refine congrArg (Scope.main :: ·) (List.ext_getElem (by simp) fun i _ _ => ?_)
    simp
  rw [hscopes, List.foldl_cons]
  exact foldl_mapIdx (fun i _ => .profile i) (fun m scope => m.modifyBody edit scope)
    (fun profiles => { m with body := edit m.body, profiles })
    (fun _ _ p => { p with body := edit p.body }) (fun _ _ _ => rfl) (fun _ _ => rfl) m.profiles

def only (id : Nat) (edit : Module → Module) (id' : Nat) (m : Module) : Module :=
  if id' = id then edit m else m

theorem only_of_eq {id id' : Nat} {edit : Module → Module} {m : Module}
    (h : id' = id → edit m = m) : only id edit id' m = m := by
  rw [only]
  split
  · exact h ‹_›
  · rfl

theorem foldl_only_same {β : Type} (edit : β → Module → Module) (id id' : Nat) (items : List β)
    (m : Module) :
    items.foldl (fun m b => only id (edit b) id' m) m =
      only id (fun m => items.foldl (fun m b => edit b m) m) id' m := by
  by_cases hid : id' = id
  · simp only [only, if_pos hid]
  · simp only [only, if_neg hid]
    exact List.foldl_fixed items

theorem foldl_only_of_not_mem (edit : Nat → Module → Module) {ids : List Nat} {id : Nat}
    (hid : id ∉ ids) (m : Module) : ids.foldl (fun m i => only i (edit i) id m) m = m := by
  induction ids with
  | nil => rfl
  | cons i later ih =>
    rw [List.mem_cons, not_or] at hid
    rw [List.foldl_cons, only, if_neg hid.1, ih hid.2]

theorem foldl_only (edit : Nat → Module → Module) {ids : List Nat} (hnodup : ids.Nodup) {id : Nat}
    (hid : id ∈ ids) (m : Module) :
    ids.foldl (fun m i => only i (edit i) id m) m = edit id m := by
  induction ids generalizing m with
  | nil => cases hid
  | cons i later ih =>
    obtain ⟨hi, hlater⟩ := List.nodup_cons.mp hnodup
    rw [List.foldl_cons, only]
    rcases List.mem_cons.mp hid with rfl | hmem
    · rw [if_pos rfl, foldl_only_of_not_mem edit hi]
    · have hne : id ≠ i := fun heq => hi (heq ▸ hmem)
      rw [if_neg hne, ih hlater hmem]

end Module

/-! ## Removals -/

namespace Progress

/-- The removal of some entries: every module is changed as told and the reactor is otherwise the
same, and each removed entry is reported and counted once. -/
structure Removed (entries : List (Nat × ChangeTarget)) (edit : Nat → Module → Module)
    (p p' : Progress) : Prop where
  size : p'.reactor.size = p.reactor.size
  modules : ∀ id < p.reactor.size, p'.reactor.module id = edit id (p.reactor.module id)
  edits : p'.edits = p.edits + entries.length
  report : ∃ changes : List Change, changes.map (fun c => (c.module, c.target)) = entries ∧
    p'.report = { p.report with changes := p.report.changes ++ changes }

namespace Removed

variable {entries entries' : List (Nat × ChangeTarget)} {edit edit' : Nat → Module → Module}
  {p p' p'' : Progress}

theorem refl (p : Progress) : Removed [] (fun _ m => m) p p :=
  ⟨rfl, fun _ _ => rfl, rfl, [], rfl, by rw [List.append_nil]⟩

/-- Removals one after the other; the second one finds the modules as the first one left them. -/
theorem trans (h : Removed entries edit p p') (h' : Removed entries' edit' p' p'') :
    Removed (entries ++ entries') (fun id m => edit' id (edit id m)) p p'' := by
  obtain ⟨changes, hchanges, hreport⟩ := h.report
  obtain ⟨changes', hchanges', hreport'⟩ := h'.report
  refine ⟨h'.size.trans h.size, fun id hid => ?_, ?_, changes ++ changes', ?_, ?_⟩
  · rw [h'.modules id (h.size ▸ hid), h.modules id hid]
  · rw [h'.edits, h.edits, List.length_append, Nat.add_assoc]
  · rw [List.map_append, hchanges, hchanges']
  · rw [hreport', hreport, List.append_assoc]

/-- A removal may be told by another function, if that does the same to the modules as they are. -/
theorem congr (h : Removed entries edit p p') (hentries : entries' = entries)
    (hedit : ∀ id < p.reactor.size, edit' id (p.reactor.module id) =
      edit id (p.reactor.module id)) : Removed entries' edit' p p' := by
  subst hentries
  exact ⟨h.size, fun id hid => (h.modules id hid).trans (hedit id hid).symm, h.edits, h.report⟩

/-- Where nothing is removed, nothing is changed. -/
theorem eq_self (h : Removed entries edit p p') (hentries : entries = [])
    (hedit : ∀ id < p.reactor.size, edit id (p.reactor.module id) = p.reactor.module id) :
    p' = p := by
  subst hentries
  obtain ⟨changes, hchanges, hreport⟩ := h.report
  obtain rfl := List.map_eq_nil_iff.mp hchanges
  have hreactor : p'.reactor = p.reactor :=
    Reactor.eq_of_module h.size fun id hid => (h.modules id hid).trans (hedit id hid)
  have hedits := h.edits
  rw [List.append_nil] at hreport
  rw [List.length_nil, Nat.add_zero] at hedits
  cases p
  cases p'
  cases hreactor
  cases hreport
  cases hedits
  rfl

/-- Removals one after the other, each of entries that no other one touches. -/
theorem foldl {β : Type} (step : Progress → β → Progress)
    (entries : β → Reactor → List (Nat × ChangeTarget)) (edit : β → Nat → Module → Module)
    {I : Progress → Prop} {items : List β}
    (hstep : ∀ b ∈ items, ∀ p, I p →
      Removed (entries b p.reactor) (edit b) p (step p b) ∧ I (step p b))
    (hapart : ∀ b ∈ items, ∀ b' ∈ items, b' ≠ b → ∀ p, I p →
      entries b' (step p b).reactor = entries b' p.reactor)
    (hnodup : items.Nodup) {p : Progress} (hp : I p) :
    Removed (items.flatMap fun b => entries b p.reactor)
        (fun id m => items.foldl (fun m b => edit b id m) m) p (items.foldl step p) ∧
      I (items.foldl step p) := by
  induction items generalizing p with
  | nil => exact ⟨.refl p, hp⟩
  | cons b later ih =>
    obtain ⟨hb, hlater⟩ := List.nodup_cons.mp hnodup
    have hmem : ∀ b' ∈ later, b' ∈ b :: later := fun _ h => List.mem_cons_of_mem _ h
    obtain ⟨hremoved, hnext⟩ := hstep b List.mem_cons_self p hp
    obtain ⟨hrest, hend⟩ := ih (fun b' hb' => hstep b' (hmem b' hb'))
      (fun b₁ h₁ b₂ h₂ => hapart b₁ (hmem b₁ h₁) b₂ (hmem b₂ h₂)) hlater hnext
    have hsame : (later.flatMap fun b' => entries b' (step p b).reactor) =
        later.flatMap fun b' => entries b' p.reactor :=
      List.flatMap_congr fun b' hb' =>
        hapart b List.mem_cons_self b' (hmem b' hb') (fun heq => hb (heq ▸ hb')) p hp
    rw [hsame] at hrest
    exact ⟨hremoved.trans hrest, hend⟩

/-- A removal from every module. -/
theorem foldl_ids (step : Progress → Nat → Progress)
    (entries : Nat → Module → List (Nat × ChangeTarget)) (edit : Nat → Module → Module)
    {I : Progress → Prop}
    (hstep : ∀ q id, id < q.reactor.size → I q →
      Removed (entries id (q.reactor.module id)) (Module.only id (edit id)) q (step q id) ∧
        I (step q id))
    {p : Progress} (hp : I p) :
    Removed (p.reactor.ids.flatMap fun id => entries id (p.reactor.module id)) edit p
        (p.reactor.ids.foldl step p) ∧
      I (p.reactor.ids.foldl step p) := by
  have hids : p.reactor.ids.Nodup := List.nodup_range
  have hlt : ∀ id ∈ p.reactor.ids, ∀ q : Progress, q.reactor.size = p.reactor.size →
      id < q.reactor.size := fun id hid q hq => hq ▸ List.mem_range.mp hid
  have hall := foldl step (fun id r => entries id (r.module id))
    (fun id => Module.only id (edit id)) (I := fun q => q.reactor.size = p.reactor.size ∧ I q)
    (fun id hid q hq => ?_) (fun id hid id' hid' hne q hq => ?_) hids ⟨rfl, hp⟩
  · refine ⟨hall.1.congr rfl fun id hid => ?_, hall.2.2⟩
    exact (Module.foldl_only edit hids (List.mem_range.mpr hid) _).symm
  · obtain ⟨hstepped, hnext⟩ := hstep q id (hlt id hid q hq.1) hq.2
    exact ⟨hstepped, hstepped.size.trans hq.1, hnext⟩
  · have hstepped := (hstep q id (hlt id hid q hq.1) hq.2).1
    rw [hstepped.modules id' (hlt id' hid' q hq.1), Module.only, if_neg hne]

end Removed

section

variable {α : Type} (target : α → ChangeTarget) (id : Nat) (artifact : Artifact)

/-- Reports the removal of some entries, with the reactor that is left. -/
theorem foldl_edit {reactor : Reactor} {items : List α} {p : Progress}
    (h : items = [] → reactor = p.reactor) :
    items.foldl (fun p x => p.edit reactor id artifact (target x) none none) p =
      { reactor
        report := { p.report with
          changes := p.report.changes ++ items.map fun x => ⟨id, artifact, target x, none, none⟩ }
        edits := p.edits + items.length } := by
  induction items generalizing p with
  | nil => simp [h rfl]
  | cons x later ih =>
    rw [List.foldl_cons, ih fun _ => rfl]
    simp [edit, Report.change, Nat.add_assoc, Nat.add_comm 1]

/-- Entries of one module are removed together and reported one by one. -/
theorem removed_foldl_edit {p : Progress} (hid : id < p.reactor.size) {edit : Module → Module}
    (keeps : ∀ m, (edit m).parentModule = m.parentModule) {items : List α}
    (hnone : items = [] → edit (p.reactor.module id) = p.reactor.module id) :
    let p' := items.foldl (fun q x =>
      q.edit (p.reactor.modify id edit keeps) id artifact (target x) none none) p
    p'.reactor = p.reactor.modify id edit keeps ∧
      Removed (items.map fun x => (id, target x)) (Module.only id edit) p p' := by
  have hmodule : ∀ id', (p.reactor.modify id edit keeps).module id' =
      Module.only id edit id' (p.reactor.module id') := by
    intro id'
    rw [p.reactor.module_modify hid, Module.only]
    split
    · rename_i heq
      rw [heq]
    · rfl
  have hsize := (p.reactor.sameLinks_modify hid edit keeps).size
  have hreactor : items = [] → p.reactor.modify id edit keeps = p.reactor := fun h =>
    Reactor.eq_of_module hsize fun id' _ => by
      rw [hmodule, Module.only_of_eq]
      rintro rfl
      exact hnone h
  intro p'
  have hp' := foldl_edit target id artifact hreactor
  refine ⟨congrArg Progress.reactor hp', ?_⟩
  rw [show p' = _ from hp']
  refine ⟨hsize, fun id' _ => hmodule id', ?_, _, ?_, rfl⟩
  · rw [List.length_map]
  · rw [List.map_map]
    rfl

end

end Progress

open Progress (Removed removed_foldl_edit)

/-- A list of which nothing goes stays as it is. -/
theorem filter_not_of_filter_eq_nil {α : Type} {gone : α → Bool} {xs : List α}
    (h : xs.filter gone = []) : xs.filter (fun x => !gone x) = xs :=
  List.filter_eq_self.mpr fun x hx => by simpa using List.filter_eq_nil_iff.mp h x hx

/-! ## Plugins -/

namespace PluginRemoval

def listed (plugins : List String) : List Artifact :=
  plugins.filterMap fun s => (Artifact.parse s).toOption

/-- Whether the artifact of a plugin, as it is interpolated in a module, is listed. -/
def isListed (plugins : List String) (r : Reactor) (id : Nat) (x : Plugin) : Bool :=
  decide (pluginArtifact r id x ∈ listed plugins)

/-- The plugins of a body that pass a test. -/
def takenFrom (gone : Plugin → Bool) (b : Body) : List Plugin :=
  b.plugins.filter gone ++ b.managedPlugins.filter gone

def taken (gone : Plugin → Bool) (m : Module) : List Plugin :=
  m.bodies.flatMap fun e => takenFrom gone e.2

def entry (id : Nat) (x : Plugin) : Nat × ChangeTarget :=
  (id, .removedPlugin { group := x.group, name := x.name })

def entries (plugins : List String) (r : Reactor) : List (Nat × ChangeTarget) :=
  r.ids.flatMap fun id => (taken (isListed plugins r id) (r.module id)).map (entry id)

variable {plugins : List String} {targets : KeySet Artifact} {gone : Plugin → Bool}

/-! ### The listed texts -/

theorem targets_error {e : ConfigError} (h : PluginRemoval.targets plugins = .error e) :
    ∃ s ∈ plugins, ∃ cause, Artifact.parse s = .error cause ∧ e = .badPlugin s cause := by
  have hread : Satisfies (fun _ => True)
      (fun e => ∃ s ∈ plugins, ∃ cause, Artifact.parse s = .error cause ∧ e = .badPlugin s cause)
      (PluginRemoval.targets plugins) := by
    refine (Satisfies.mapM (Q := fun _ => True) fun s hs => ?_).map fun _ _ => trivial
    cases hparse : Artifact.parse s with
    | ok a => trivial
    | error cause => exact ⟨s, hs, cause, hparse, rfl⟩
  rwa [h] at hread

/-- Reading the list succeeds only if every text names an artifact, and the targets are then exactly
these. -/
theorem targets_ok (h : PluginRemoval.targets plugins = .ok targets) :
    (∀ s ∈ plugins, ∃ a, Artifact.parse s = .ok a) ∧
      ∀ a, targets.contains a = true ↔ a ∈ listed plugins := by
  let read (s : String) : Except ConfigError Artifact := (Artifact.parse s).mapError (.badPlugin s)
  have hread : ∀ s, (read s).toOption = (Artifact.parse s).toOption := by
    intro s
    simp only [read]
    cases Artifact.parse s <;> rfl
  rw [PluginRemoval.targets] at h
  cases hresults : plugins.mapM read with
  | error e =>
    rw [hresults] at h
    cases h
  | ok artifacts =>
    rw [hresults] at h
    obtain rfl : KeySet.ofList artifacts = targets := Except.ok.inj h
    have hall : artifacts.map .ok = plugins.map read := mapM_eq_ok_iff.mp hresults
    have hlisted := filterMap_toOption_of_map_eq hall
    simp only [hread] at hlisted
    refine ⟨fun s hs => ?_, fun a => by rw [KeySet.contains_ofList, listed, hlisted]⟩
    obtain ⟨a, _, ha⟩ := List.mem_map.mp (hall ▸ List.mem_map_of_mem (f := read) hs)
    have hok : (Artifact.parse s).toOption = some a := by
      rw [← hread, ← ha]
      rfl
    cases hparse : Artifact.parse s with
    | ok a => exact ⟨a, rfl⟩
    | error cause =>
      rw [hparse] at hok
      cases hok

theorem isTarget_eq_isListed (h : ∀ a, targets.contains a = true ↔ a ∈ listed plugins)
    (r : Reactor) (id : Nat) : isTarget targets r id = isListed plugins r id := by
  funext x
  rw [isTarget, isListed, Bool.eq_iff_iff, h, decide_eq_true_iff]

/-! ### The artifacts of plugins -/

theorem pluginArtifact_view {r r' : Reactor} {id : Nat} (h : r.SameView id r') :
    pluginArtifact r' id = pluginArtifact r id := by
  funext x
  rw [pluginArtifact, pluginArtifact, h.resolve, h.resolve]

theorem isTarget_view {r r' : Reactor} {id : Nat} (h : r.SameView id r') :
    isTarget targets r' id = isTarget targets r id := by
  funext x
  rw [isTarget, isTarget, pluginArtifact_view h]

theorem isListed_view {r r' : Reactor} {id : Nat} (h : r.SameView id r') :
    isListed plugins r' id = isListed plugins r id := by
  funext x
  rw [isListed, isListed, pluginArtifact_view h]

/-! ### One body, one module, all modules -/

theorem removeFrom_of_takenFrom_eq_nil {b : Body} (h : takenFrom gone b = []) :
    removeFrom gone b = b := by
  obtain ⟨hplugins, hmanaged⟩ := List.append_eq_nil_iff.mp h
  rw [removeFrom, filter_not_of_filter_eq_nil hplugins, filter_not_of_filter_eq_nil hmanaged]

theorem takenFrom_removeFrom (gone : Plugin → Bool) (b : Body) :
    takenFrom gone (removeFrom gone b) = [] := by
  simp [takenFrom, removeFrom]

theorem removed_removeScope {p : Progress} {id : Nat} (hid : id < p.reactor.size)
    (artifact : Artifact) (scope : Scope) (hgone : isTarget targets p.reactor id = gone) :
    let p' := removeScope targets id artifact p scope
    p'.reactor = p.reactor.modifyBody id scope (removeFrom gone) ∧
      Removed ((takenFrom gone (((p.reactor.module id).body? scope).getD {})).map (entry id))
        (Module.only id fun m => m.modifyBody (removeFrom gone) scope) p p' := by
  subst hgone
  refine removed_foldl_edit _ id artifact hid _ fun hnone => Module.modifyBody_of_eq fun b hb => ?_
  rw [hb] at hnone
  exact removeFrom_of_takenFrom_eq_nil hnone

/-- The removal from one module takes the listed plugins out of all its bodies and reports them body
after body. -/
theorem removed_removeModule {p : Progress} {id : Nat} (hid : id < p.reactor.size)
    (hgone : isTarget targets p.reactor id = gone) :
    let p' := removeModule targets p id
    Removed ((taken gone (p.reactor.module id)).map (entry id))
        (Module.only id (Module.mapBodies (removeFrom gone))) p p' ∧
      ∀ id', p.reactor.SameView id' p'.reactor := by
  let step := removeScope targets id (p.reactor.artifact id)
  let entriesOf (scope : Scope) (r : Reactor) : List (Nat × ChangeTarget) :=
    (takenFrom gone (((r.module id).body? scope).getD {})).map (entry id)
  let edit (scope : Scope) : Nat → Module → Module :=
    Module.only id fun m => m.modifyBody (removeFrom gone) scope
  have hlt : ∀ q : Progress, (∀ id', p.reactor.SameView id' q.reactor) → id < q.reactor.size :=
    fun q hq => (hq id).frame.size ▸ hid
  have hscope : ∀ scope q, (∀ id', p.reactor.SameView id' q.reactor) →
      (step q scope).reactor = q.reactor.modifyBody id scope (removeFrom gone) ∧
        Removed (entriesOf scope q.reactor) (edit scope) q (step q scope) := fun scope q hq =>
    removed_removeScope (hlt q hq) _ scope ((isTarget_view (hq id)).trans hgone)
  have hall := Removed.foldl step entriesOf edit
    (I := fun q => ∀ id', p.reactor.SameView id' q.reactor)
    (fun scope _ q hq => ?_) (fun scope _ scope' _ hne q hq => ?_)
    (p.reactor.module id).nodup_scopes fun id' => .refl id' p.reactor
  · refine ⟨hall.1.congr ?_ fun id' _ => ?_, hall.2⟩
    · have hbodies : ∀ e ∈ (p.reactor.module id).bodies, entriesOf e.1 p.reactor =
          (takenFrom gone e.2).map (entry id) := fun e he => by
        simp only [entriesOf, Module.body?_of_mem_bodies he, Option.getD_some]
      rw [taken, List.map_flatMap, List.flatMap_map]
      exact (List.flatMap_congr hbodies).symm
    · rw [Module.foldl_only_same, Module.only, Module.only]
      split
      · rename_i heq
        rw [heq, Module.foldl_modifyBody]
      · rfl
  · obtain ⟨hreactor, hremoved⟩ := hscope scope q hq
    refine ⟨hremoved, fun id' => (hq id').trans ?_⟩
    have hkeeps : ∀ b, (removeFrom gone b).properties = b.properties := fun _ => rfl
    rw [hreactor]
    exact q.reactor.sameView_modifyBody (hlt q hq) hkeeps scope id'
  · simp only [entriesOf, edit, (hscope scope q hq).2.modules id (hlt q hq), Module.only, if_pos,
      Module.body?_modifyBody, if_neg hne]

/-- The run over all modules removes what is listed from the modules as they are before it. -/
theorem removed_foldl_removeModule
    (htargets : ∀ a, targets.contains a = true ↔ a ∈ listed plugins) (p : Progress) :
    let p' := p.reactor.ids.foldl (removeModule targets) p
    Removed (entries plugins p.reactor)
        (fun id => Module.mapBodies (removeFrom (isListed plugins p.reactor id))) p p' ∧
      ∀ id, p.reactor.SameView id p'.reactor := by
  refine Removed.foldl_ids (removeModule targets)
    (fun id m => (taken (isListed plugins p.reactor id) m).map (entry id))
    (fun id => Module.mapBodies (removeFrom (isListed plugins p.reactor id)))
    (I := fun q => ∀ id, p.reactor.SameView id q.reactor) (fun q id hid hq => ?_)
    fun id => .refl id p.reactor
  have hgone : isTarget targets q.reactor id = isListed plugins p.reactor id :=
    (isTarget_view (hq id)).trans (isTarget_eq_isListed htargets p.reactor id)
  obtain ⟨hremoved, hview⟩ := removed_removeModule hid hgone
  exact ⟨hremoved, fun id' => (hq id').trans (hview id')⟩

/-- Nothing that is listed is left. -/
theorem entries_eq_nil {p p' : Progress} {removed : List (Nat × ChangeTarget)}
    (h : Removed removed
      (fun id => Module.mapBodies (removeFrom (isListed plugins p.reactor id))) p p')
    (hview : ∀ id, p.reactor.SameView id p'.reactor) : entries plugins p'.reactor = [] := by
  refine List.flatMap_eq_nil_iff.mpr fun id hid => List.map_eq_nil_iff.mpr ?_
  rw [isListed_view (hview id), h.modules id (h.size ▸ List.mem_range.mp hid), taken,
    Module.bodies_mapBodies, List.flatMap_map]
  exact List.flatMap_eq_nil_iff.mpr fun e _ => takenFrom_removeFrom ..

/-- The removal on a progress that is changed in place, so that whatever is done before a failure
stays done. The answer is the number of removed plugins. -/
def inPlace (plugins : List String) : StateM Progress (Except ConfigError Nat) := do
  match PluginRemoval.targets plugins with
  | .error e => return .error e
  | .ok targets =>
    let before ← get
    before.reactor.ids.forM fun id => modify (removeModule targets · id)
    return .ok ((← get).edits - before.edits)

theorem run_forM_modify {σ β : Type} (step : σ → β → σ) (items : List β) (s : σ) :
    (items.forM fun b => modify (step · b) : StateM σ PUnit).run s = ((), items.foldl step s) := by
  induction items generalizing s with
  | nil => rfl
  | cons b later ih => exact ih (step s b)

/-- In place, a failure comes before the first removal. -/
theorem inPlace_eq (plugins : List String) (p : Progress) :
    (inPlace plugins).run p =
      match run plugins p with
      | .error e => (.error e, p)
      | .ok p' => (.ok (p'.edits - p.edits), p') := by
  rw [run, inPlace]
  cases PluginRemoval.targets plugins with
  | error e => rfl
  | ok targets =>
    have hloop := run_forM_modify (removeModule targets) p.reactor.ids p
    simp only [StateT.run_bind, StateT.run_get, pure_bind, hloop]
    rfl

/-- Either a listed text names no artifact, or the listed plugins are removed for good. -/
theorem run_exact (plugins : List String) (p : Progress) :
    (∃ s ∈ plugins, ∃ cause, Artifact.parse s = .error cause ∧
        run plugins p = .error (.badPlugin s cause)) ∨
      (∀ s ∈ plugins, ∃ a, Artifact.parse s = .ok a) ∧
        ∃ p', run plugins p = .ok p' ∧
          Removed (entries plugins p.reactor)
            (fun id => Module.mapBodies (removeFrom (isListed plugins p.reactor id))) p p' ∧
          run plugins p' = .ok p' := by
  simp only [run]
  cases htargets : PluginRemoval.targets plugins with
  | error e =>
    obtain ⟨s, hs, cause, hcause, rfl⟩ := targets_error htargets
    exact .inl ⟨s, hs, cause, hcause, rfl⟩
  | ok targets =>
    obtain ⟨hvalid, hlisted⟩ := targets_ok htargets
    obtain ⟨hremoved, hview⟩ := removed_foldl_removeModule hlisted p
    refine .inr ⟨hvalid, _, rfl, hremoved, congrArg Except.ok ?_⟩
    refine (removed_foldl_removeModule hlisted _).1.eq_self (entries_eq_nil hremoved hview) ?_
    intro id hid
    have honce : ∀ gone, removeFrom gone ∘ removeFrom gone = removeFrom gone := fun gone =>
      funext fun b => removeFrom_of_takenFrom_eq_nil (takenFrom_removeFrom gone b)
    rw [isListed_view (hview id), hremoved.modules id (hremoved.size ▸ hid),
      Module.mapBodies_mapBodies, honce]

end PluginRemoval

/-! ## Profiles -/

def Module.keepProfiles (keep : Profile → Bool) (m : Module) : Module :=
  { m with profiles := m.profiles.filter keep }

namespace ProfileRemoval

/-- Whether the id of a profile is listed, up to blanks around the listed one. -/
def isListed (profiles : List String) (x : Profile) : Bool :=
  decide (x.id ∈ profiles.map Text.trimmed)

def entry (id : Nat) (x : Profile) : Nat × ChangeTarget :=
  (id, .removedProfile x.id)

def entries (profiles : List String) (r : Reactor) : List (Nat × ChangeTarget) :=
  r.ids.flatMap fun id => ((r.module id).profiles.filter (isListed profiles)).map (entry id)

variable {profiles : List String}

theorem keepProfiles_of_eq_nil {gone : Profile → Bool} {m : Module}
    (h : m.profiles.filter gone = []) : (m.keepProfiles fun x => !gone x) = m := by
  rw [Module.keepProfiles, filter_not_of_filter_eq_nil h]

theorem removed_removeModule {p : Progress} {id : Nat} (hid : id < p.reactor.size) :
    Removed (((p.reactor.module id).profiles.filter (isListed profiles)).map (entry id))
      (Module.only id (Module.keepProfiles fun x => !isListed profiles x)) p
      (removeModule (profiles.map Text.trimmed) p id) := by
  have hlisted : isListed profiles = fun x => (profiles.map Text.trimmed).contains x.id :=
    funext fun x => (List.contains_eq_mem ..).symm
  rw [hlisted]
  exact (removed_foldl_edit _ id _ hid _ keepProfiles_of_eq_nil).2

theorem removed_run (profiles : List String) (p : Progress) :
    Removed (entries profiles p.reactor)
      (fun _ => Module.keepProfiles fun x => !isListed profiles x) p (run profiles p) :=
  (Removed.foldl_ids (removeModule (profiles.map Text.trimmed))
    (fun id m => (m.profiles.filter (isListed profiles)).map (entry id))
    (fun _ => Module.keepProfiles fun x => !isListed profiles x) (I := fun _ => True)
    (fun _ _ hid _ => ⟨removed_removeModule hid, trivial⟩) trivial).1

/-- A second run finds nothing to remove. -/
theorem run_run (profiles : List String) (p : Progress) :
    run profiles (run profiles p) = run profiles p := by
  have hremoved := removed_run profiles p
  have hleft : ∀ id < (run profiles p).reactor.size,
      ((run profiles p).reactor.module id).profiles.filter (isListed profiles) = [] := by
    intro id hid
    rw [hremoved.modules id (hremoved.size ▸ hid), Module.keepProfiles]
    simp
  refine (removed_run profiles _).eq_self ?_ fun id hid => keepProfiles_of_eq_nil (hleft id hid)
  refine List.flatMap_eq_nil_iff.mpr fun id hid => List.map_eq_nil_iff.mpr ?_
  exact hleft id (List.mem_range.mp hid)

end ProfileRemoval

/-! ## Both removals -/

def Body.keepPlugins (keep : Plugin → Bool) (b : Body) : Body :=
  { b with plugins := b.plugins.filter keep, managedPlugins := b.managedPlugins.filter keep }

/-- The removals are exact. Either a listed plugin text names no artifact, and everything is as it
was; or every list of plugins is left with the plugins whose artifacts are not listed, and nothing
else is changed. The profiles that are left are those whose ids are not listed. A second removal
finds nothing. -/
theorem removal_exact (plugins profiles : List String) (p : Progress) :
    ((∃ s ∈ plugins, ∃ cause, Artifact.parse s = .error cause ∧
          PluginRemoval.run plugins p = .error (.badPlugin s cause) ∧
          (PluginRemoval.inPlace plugins).run p = (.error (.badPlugin s cause), p)) ∨
        (∀ s ∈ plugins, ∃ a, Artifact.parse s = .ok a) ∧
          ∃ p', PluginRemoval.run plugins p = .ok p' ∧
            (PluginRemoval.inPlace plugins).run p =
              (.ok (PluginRemoval.entries plugins p.reactor).length, p') ∧
            Removed (PluginRemoval.entries plugins p.reactor)
              (fun id => Module.mapBodies
                (.keepPlugins fun x => !PluginRemoval.isListed plugins p.reactor id x)) p p' ∧
            PluginRemoval.run plugins p' = .ok p' ∧
            (PluginRemoval.inPlace plugins).run p' = (.ok 0, p')) ∧
      Removed (ProfileRemoval.entries profiles p.reactor)
        (fun _ => Module.keepProfiles fun x => !ProfileRemoval.isListed profiles x) p
        (ProfileRemoval.run profiles p) ∧
      ProfileRemoval.run profiles (ProfileRemoval.run profiles p) =
        ProfileRemoval.run profiles p := by
  refine ⟨?_, ProfileRemoval.removed_run profiles p, ProfileRemoval.run_run profiles p⟩
  have hinPlace := PluginRemoval.inPlace_eq plugins p
  rcases PluginRemoval.run_exact plugins p with ⟨s, hs, cause, hcause, hrun⟩ |
    ⟨hvalid, p', hrun, hremoved, hagain⟩
  · rw [hrun] at hinPlace
    exact .inl ⟨s, hs, cause, hcause, hrun, hinPlace⟩
  · have hinPlaceAgain := PluginRemoval.inPlace_eq plugins p'
    rw [hrun] at hinPlace
    rw [hagain] at hinPlaceAgain
    simp only [hremoved.edits, Nat.add_sub_cancel_left] at hinPlace
    simp only [Nat.sub_self] at hinPlaceAgain
    exact .inr ⟨hvalid, p', hrun, hinPlace, hremoved, hagain, hinPlaceAgain⟩

/-- A module with a plugin whose group is a property, another plugin, and a profile that manages the
first one. -/
def propertyPlugin : Reactor where
  modules := [
    { name := "core"
      body :=
        { plugins := [
            { group := "$\x7bplugins\x7d", name := "a" }, { group := "org.p", name := "b" }]
          properties := .ofList [("plugins", "org.p")] }
      profiles :=
        [{ id := "dev", body := { managedPlugins := [{ group := "org.p", name := "a" }] } }] }]
  forest := Reactor.forest_of_checks (by simp) (by decide) (by decide)

example :
    (PluginRemoval.run [" org.p:a "] ⟨propertyPlugin, {}, 0⟩).toOption.map (fun p =>
      (p.edits, (p.reactor.module 0).body.plugins.map Plugin.name,
        (p.reactor.module 0).profiles.flatMap (·.body.managedPlugins))) =
      some (2, ["b"], []) := by
  decide +kernel

end BuildAlign
