import BuildAlign.Proofs.Alignment.Reported
import BuildAlign.Proofs.Alignment.Standing

/-!
Where the declarations are that a run reports. A change of a version text is recorded with the
address that the declaration has while its module is visited. The managed dependencies that are
added to the module come in front of those of its main body and are reported too; so a reported
address leads to the declaration after it is moved behind as many entries. The artifact that is
recorded is the one that the declaration names, unless a reported property is read in it.
-/

namespace BuildAlign

def ChangeTarget.isAddition : ChangeTarget → Bool
  | injectedManaged _ => true
  | _ => false

namespace Report

def additionsTo (changes : List Change) (id : Nat) : Nat :=
  (changes.filter fun c => c.module = id).countP fun c => c.target.isAddition

/-- The value of a text in a module depends on a property that is reported as changed. -/
def ReadsChange (changes : List Change) (r : Reactor) (id : Nat) (raw : String) : Prop :=
  ∃ c ∈ changes, ∃ name ∈ r.namesRead id raw, c.target = .property name ∧ c.module ∈ r.chain id

/-- Later changes do not disturb what an earlier one says of a slot. -/
theorem ReadsChange.behind {changes : List Change} {r : Reactor} {id : Nat} {raw : String}
    (earlier : List Change) (h : ReadsChange changes r id raw) :
    ReadsChange (earlier ++ changes) r id raw := by
  obtain ⟨c, hc, hread⟩ := h
  exact ⟨c, List.mem_append_right _ hc, hread⟩

end Report

namespace DependencyAlignment

open Reactor Report

variable {a : DependencyAlignment} {r : Reactor} {id : Nat}

/-! ## What a module reports -/

/-- A reported text is that of a declaration of the module. -/
theorem mem_changesIn_declaration {c : Change} (hc : c ∈ a.changesIn r id) {address : Address}
    {artifact : Artifact} (htarget : c.target = .declaration address artifact) :
    ∃ d ∈ (r.module id).declarations, a.declarationChange? r id d = some c := by
  rcases mem_changesIn_cases hc with ⟨old, new, rfl⟩ | hdeclared | ⟨d, _, rfl⟩
  · cases htarget
  · exact hdeclared
  · cases htarget

theorem module_of_mem_changesIn {c : Change} (hc : c ∈ a.changesIn r id) : c.module = id := by
  rcases mem_changesIn_cases hc with ⟨old, new, rfl⟩ | ⟨d, _, hd⟩ | ⟨d, _, rfl⟩
  · rfl
  · obtain ⟨new, _, rfl⟩ := Option.map_eq_some_iff.mp hd
    rfl
  · rfl

/-- Among what a module reports, the additions are those of the added managed dependencies. -/
theorem countP_isAddition_changesIn :
    (a.changesIn r id).countP (fun c => c.target.isAddition) = (a.added r id).length := by
  have hparent : ((if r.isRoot id then (a.parentChange? r (a.visit r id)).toList else []).countP
      fun c => c.target.isAddition) = 0 := by
    refine List.countP_eq_zero.mpr fun c hc => ?_
    split at hc
    · obtain ⟨new, _, rfl⟩ := Option.map_eq_some_iff.mp (Option.mem_toList.mp hc)
      exact Bool.false_ne_true
    · cases hc
  have hdeclarations : (((r.module id).declarations.filterMap (a.declarationChange? r id)).countP
      fun c => c.target.isAddition) = 0 := by
    refine List.countP_eq_zero.mpr fun c hc => ?_
    obtain ⟨d, _, hd⟩ := List.mem_filterMap.mp hc
    obtain ⟨new, _, rfl⟩ := Option.map_eq_some_iff.mp hd
    exact Bool.false_ne_true
  have hadded : (((a.added r id).map (additionChange (a.visit r id))).countP
      fun c => c.target.isAddition) = (a.added r id).length := by
    rw [List.countP_map]
    exact List.countP_eq_length.mpr fun _ _ => rfl
  rw [changesIn, changesBehindParent, List.countP_append, List.countP_append, hparent,
    hdeclarations, hadded, Nat.zero_add, Nat.zero_add]

namespace Reports

variable {p p' : Progress} {written : List Change}

/-- The report of the whole run counts the additions to a module. -/
theorem additionsTo_eq (h : Reports a p p' written) {id : Nat} (hid : id < p.reactor.size) :
    additionsTo (p.reactor.order.flatMap (a.changesIn p.reactor) ++ written) id =
      (a.added p.reactor id).length := by
  have hwritten : ((written.filter fun c => c.module = id).countP
      fun c => c.target.isAddition) = 0 := by
    refine List.countP_eq_zero.mpr fun c hc => ?_
    obtain ⟨e, _, _, htarget, _⟩ := h.writes.mapped c (List.mem_of_mem_filter hc)
    rw [htarget]
    exact Bool.false_ne_true
  rw [additionsTo, List.filter_append, List.countP_append, hwritten, Nat.add_zero,
    filter_flatMap_of_key (fun _ _ hc => module_of_mem_changesIn hc) p.reactor.nodup_order
      (p.reactor.mem_order hid), countP_isAddition_changesIn]

/-! ## What a module sees at the end -/

/-- A property is found as before unless it is reported for a module on the way to the root. -/
theorem declaredProperty? (h : Reports a p p' written) (hlinks : p.reactor.SameLinks p'.reactor)
    {id : Nat} {name : String}
    (hunreported : ∀ c ∈ written, c.target = .property name → c.module ∉ p.reactor.chain id) :
    p'.reactor.declaredProperty? id name = p.reactor.declaredProperty? id name := by
  rw [declaredProperty?_eq, declaredProperty?_eq, nearestPlace?_congr hlinks]
  exact fun m hm => h.writes.kept m name fun c hc hmodule htarget =>
    hunreported c hc htarget (hmodule ▸ hm)

/-- A text has the value that it had when the module was visited, unless it reads a property that is
reported. -/
theorem resolve_eq (h : Reports a p p' written) (hrun : a.run p = .ok p') {id : Nat}
    (hid : id < p.reactor.size) (raw : String) :
    p'.reactor.resolve id raw = (a.asVisited p.reactor id).resolve id raw ∨
      ReadsChange written p'.reactor id raw := by
  by_cases hread : ReadsChange written p'.reactor id raw
  · exact .inr hread
  left
  have hleft := left_of_run hrun
  have hran : Ran a p p' := by
    have := a.run_spec p
    rwa [hrun] at this
  have hvisited := a.sameFrame_asVisited p.reactor hid
  refine (resolve_congr fun name hname => ?_).symm
  rw [Reactor.lookup, Reactor.lookup]
  split
  · rename_i part _
    have hcoordinate := (hvisited.modules id).toSameCoordinate.symm.trans (hran.sameCoordinate id)
    exact (hcoordinate.part_of_parent (hleft.parent hid) part).symm
  · rw [hvisited.declaredProperty?]
    refine (h.declaredProperty? hleft.sameLinks fun c hc htarget hmem => hread ?_).symm
    exact ⟨c, hc, name, hname, htarget, hleft.sameLinks.chain id ▸ hmem⟩

/-- A declaration names the artifact that it named when the module was visited, unless its group or
its name reads a property that is reported. -/
theorem declaredArtifact_eq (h : Reports a p p' written) (hrun : a.run p = .ok p') {id : Nat}
    (hid : id < p.reactor.size) (d : Declaration) :
    p'.reactor.declaredArtifact id d = (a.asVisited p.reactor id).declaredArtifact id d ∨
      ReadsChange written p'.reactor id d.group ∨ ReadsChange written p'.reactor id d.name := by
  rcases h.resolve_eq hrun hid d.group with hgroup | hgroup
  · rcases h.resolve_eq hrun hid d.name with hname | hname
    · left
      rw [declaredArtifact, declaredArtifact]
      exact congrArg₂ Artifact.mk hgroup hname
    · exact .inr (.inr hname)
  · exact .inr (.inl hgroup)

end Reports

/-! ## Reported addresses -/

/-- Every version text that a run reports is that of a declaration of the reactor after the run, and
the declaration is found by the recorded address, moved behind the managed dependencies that the
report says were added to its module. It names the recorded artifact, or a property that is
reported as changed is read in its group or name. -/
theorem reported_behind_added {p p' : Progress} (hrun : a.run p = .ok p') :
    ∃ changes, p'.report.changes = p.report.changes ++ changes ∧
      ∀ c ∈ changes, ∀ address artifact, c.target = .declaration address artifact →
        ∃ d ∈ (p'.reactor.module c.module).declarations, ∃ new,
          d.address = address.behind (additionsTo changes c.module) ∧
          c.new = some new ∧ d.version = some new ∧
          (p'.reactor.declaredArtifact c.module d = artifact ∨
            ReadsChange changes p'.reactor c.module d.group ∨
            ReadsChange changes p'.reactor c.module d.name) := by
  obtain ⟨written, hreports⟩ := reports_of_run hrun
  refine ⟨_, hreports.logged, fun c hc address artifact htarget => ?_⟩
  rcases List.mem_append.mp hc with hvisit | hc
  · obtain ⟨id, horder, hvisit⟩ := List.mem_flatMap.mp hvisit
    have hid := Reactor.lt_of_mem_order horder
    obtain ⟨d, hd, hchange⟩ := mem_changesIn_declaration hvisit htarget
    obtain ⟨new, htext, rfl⟩ := Option.map_eq_some_iff.mp hchange
    obtain ⟨rfl, rfl⟩ := ChangeTarget.declaration.inj htarget
    have hlisted : (a.realign p.reactor id d).behind (a.added p.reactor id).length ∈
        (p'.reactor.module id).declarations := by
      rw [(left_of_run hrun).declarations hid, List.map_map]
      exact List.mem_append_right _ (List.mem_map.mpr ⟨d, hd, rfl⟩)
    have htext : a.realign p.reactor id d = { d with version := some new } := by
      rw [realign, Request.realign, htext]
    rw [htext] at hlisted
    refine ⟨_, hlisted, new, ?_, rfl, rfl, ?_⟩
    · exact congrArg (Address.behind · d.address) (hreports.additionsTo_eq hid).symm
    · exact (hreports.declaredArtifact_eq hrun hid d).imp_right
        (Or.imp (ReadsChange.behind _) (ReadsChange.behind _))
  · obtain ⟨e, _, _, hproperty, _⟩ := hreports.writes.mapped c hc
    rw [hproperty] at htarget
    cases htarget

/-! ## An addition in front -/

def oneManaged : Progress where
  reactor := {
    modules := [
      { group := some "org.app", name := "app", version := some "1"
        body := {
          managedDependencies := [
            { group := "org.b", name := "lib", version := some "1.0" }] } }]
    forest := Reactor.forest_of_checks (by simp) rfl rfl }
  report := {}

/-- The alignment to the library and to an artifact that is to be managed too. -/
def managingMore : DependencyAlignment where
  config := { precedence := .bom, overrideTransitive := true }
  strict := {}
  sources := {
    bom := .ofCoordinates .bom [
      Artifact.at { group := "org.b", name := "core" } "3.0",
      Artifact.at { group := "org.b", name := "lib" } "2.0"] }
  rules := {}

/-- What the alignment leaves of the module. -/
def managedMore : Progress :=
  (managingMore.run oneManaged).toOption.getD oneManaged

/-- The change of the library, with the address of before. -/
def libraryChange : Change where
  module := 0
  artifact := { group := "org.app", name := "app" }
  target := .declaration ⟨.main, .managedDependencies, 0⟩ { group := "org.b", name := "lib" }
  old := some "1.0"
  new := some "2.0"

theorem reported_behind_added_managedMore :
    managingMore.run oneManaged = .ok managedMore ∧
    ∃ changes, managedMore.report.changes = oneManaged.report.changes ++ changes ∧
      libraryChange ∈ changes ∧
      ∃ d ∈ (managedMore.reactor.module 0).declarations,
        d.address = ⟨.main, .managedDependencies, 1⟩ ∧ d.version = some "2.0" := by
  have hrun : managingMore.run oneManaged = .ok managedMore := by decide +kernel
  obtain ⟨changes, hchanges, hreported⟩ := reported_behind_added hrun
  have hall : changes = managedMore.report.changes := hchanges.symm
  have hmem : libraryChange ∈ changes := hall ▸ by decide +kernel
  have hadditions : additionsTo changes 0 = 1 := hall ▸ by decide +kernel
  obtain ⟨d, hd, new, haddress, hnew, hversion, _⟩ := hreported libraryChange hmem _ _ rfl
  refine ⟨hrun, changes, hchanges, hmem, d, hd, ?_, hversion.trans hnew.symm⟩
  rw [haddress]
  exact congrArg (Address.behind · _) hadditions

/-- The recorded address leads to the added dependency. -/
theorem recorded_address_taken :
    managingMore.run oneManaged = .ok managedMore ∧
      libraryChange ∈ managedMore.report.changes ∧
      ∀ d ∈ (managedMore.reactor.module 0).declarations,
        d.address = ⟨.main, .managedDependencies, 0⟩ →
          managedMore.reactor.declaredArtifact 0 d = { group := "org.b", name := "core" } ∧
            d.version = some "3.0" := by
  decide +kernel

end DependencyAlignment

end BuildAlign
