import BuildAlign.Proofs.Module.Substitution
import BuildAlign.Proofs.Versioning.Written

/-!
Version changes in a reactor whose version texts hold no references. Every text that carries a
changed coordinate is replaced in its own place, and all of them at once: what is written is decided
by the reactor as it was before, so a change from 1 to 2 and one from 2 to 3 do not add up.
-/

namespace BuildAlign

/-- A module whose version texts, and the coordinate of whose declared parent, hold no reference. -/
structure Module.Literal (m : Module) : Prop where
  own : ∀ raw ∈ m.version, Template.hasReference raw = false
  parent : ∀ p ∈ m.parent, Template.hasReference p.group = false ∧
    Template.hasReference p.name = false ∧ Template.hasReference p.version = false
  dependencies : ∀ d ∈ m.allDependencies, ∀ raw ∈ d.version, Template.hasReference raw = false

instance : DecidablePred Module.Literal := fun m =>
  decidable_of_iff
    ((∀ raw ∈ m.version, Template.hasReference raw = false) ∧
      (∀ p ∈ m.parent, Template.hasReference p.group = false ∧
        Template.hasReference p.name = false ∧ Template.hasReference p.version = false) ∧
      ∀ d ∈ m.allDependencies, ∀ raw ∈ d.version, Template.hasReference raw = false)
    ⟨fun ⟨own, parent, dependencies⟩ => ⟨own, parent, dependencies⟩,
      fun h => ⟨h.own, h.parent, h.dependencies⟩⟩

/-- Two targets in one place of a module. The place of a declaration is its address. -/
def ChangeTarget.SamePlace : ChangeTarget → ChangeTarget → Prop
  | .declaration a _, .declaration a' _ => a = a'
  | target, target' => target = target'

namespace VersionChanges

/-! ## What is to be written -/

section

variable (changes : VersionChanges) (r : Reactor) (id : Nat)

/-- The new version of a coordinate as it is written in a module, if the coordinate is changed. -/
def newVersion? (group name version : String) : Option String :=
  let artifact : Artifact := { group := r.resolve id group, name := r.resolve id name }
  changes.get? (artifact.at (r.resolve id version))

/-- The new version of the module, to be written into it: where its version is its own, and where it
is inherited from a parent that is no module of the reactor. -/
def newOwn? : Option String :=
  if (r.module id).version.isSome ∨ r.isRoot id then
    (r.version? id).bind fun present => changes.get? ((r.artifact id).at present)
  else none

def newParent? (p : Parent) : Option String :=
  newVersion? changes r id p.group p.name p.version

def newDependency? (d : Dependency) : Option String :=
  d.version.bind (newVersion? changes r id d.group d.name)

/-- The module with every changed coordinate replaced. -/
def substituted : Module :=
  let m := (r.module id).mapDependencies (.renew (newDependency? changes r id))
  { m with
    version := (newOwn? changes r id).or m.version
    parent := m.parent.map fun p =>
      { p with version := (newParent? changes r id p).getD p.version } }

def newTexts : List String :=
  ((r.module id).parent.bind (newParent? changes r id)).toList ++ (newOwn? changes r id).toList
    ++ (r.module id).allDependencies.filterMap (newDependency? changes r id)

end

/-! ## Edits in one module -/

def Site.target : Site → ChangeTarget
  | .own => .moduleVersion
  | .parent => .parentVersion
  | .entry address artifact => .declaration address artifact

theorem module_foldl_commitEdit {edits : List Edit} {p : Progress}
    (hinside : ∀ e ∈ edits, e.module < p.reactor.size) (id : Nat) :
    (edits.foldl commitEdit p).reactor.module id =
      (edits.filter (·.module = id)).foldl (fun m e => e.on m) (p.reactor.module id) := by
  induction edits generalizing p with
  | nil => rfl
  | cons e later ih =>
    obtain ⟨he, hlater⟩ := List.forall_mem_cons.mp hinside
    have hsize := (sameLinks_commitEdit he).size
    rw [List.foldl_cons, ih (fun e' he' => hsize ▸ hlater e' he'), module_commitEdit he,
      List.filter_cons]
    by_cases hid : e.module = id
    · simp [hid]
    · simp [hid]

theorem edits_foldl_commitEdit (edits : List Edit) (p : Progress) :
    (edits.foldl commitEdit p).edits = p.edits + edits.length := by
  induction edits generalizing p with
  | nil => rfl
  | cons e later ih =>
    have hone : (commitEdit p e).edits = p.edits + 1 := by
      obtain ⟨module, site, new⟩ := e
      cases site <;> rfl
    rw [List.foldl_cons, ih, hone, List.length_cons]
    omega

/-- Every edit is reported once, in order, with its place. -/
theorem changes_foldl_commitEdit (edits : List Edit) (p : Progress) :
    ∃ made, (edits.foldl commitEdit p).report.changes = p.report.changes ++ made ∧
      made.map (fun c => (c.module, c.target)) = edits.map fun e => (e.module, e.site.target) := by
  induction edits generalizing p with
  | nil => exact ⟨[], (List.append_nil _).symm, rfl⟩
  | cons e later ih =>
    obtain ⟨made, hmade, hplaces⟩ := ih (commitEdit p e)
    have hone : ∃ c : Change, (commitEdit p e).report.changes = p.report.changes ++ [c] ∧
        (c.module, c.target) = (e.module, e.site.target) := by
      obtain ⟨module, site, new⟩ := e
      cases site <;> exact ⟨_, rfl, rfl⟩
    obtain ⟨c, hc, hplace⟩ := hone
    refine ⟨c :: made, ?_, ?_⟩
    · rw [List.foldl_cons, hmade, hc, List.append_assoc, List.singleton_append]
    · rw [List.map_cons, hplace, hplaces, List.map_cons]

section

variable {changes : VersionChanges} {r : Reactor} {id : Nat}

def editsIn (changes : VersionChanges) (r : Reactor) (id : Nat) : List Edit :=
  (carriersIn changes r id).map Carrier.edit

theorem ownCarrier?_eq :
    (ownCarrier? changes r id).map Carrier.edit =
      (newOwn? changes r id).map fun new => { module := id, site := .own, new } := by
  rw [ownCarrier?, newOwn?]
  cases (r.version? id).bind fun old => changes.get? ((r.artifact id).at old) with
  | none => simp
  | some new =>
    rw [Option.bind_some]
    cases (r.module id).version with
    | some raw => simp
    | none =>
      cases r.isRoot id <;> simp

theorem parentEdit?_eq (hliteral : (r.module id).Literal) :
    (parentEdit? changes r id).map Prod.snd =
      ((r.module id).parent.bind (newParent? changes r id)).map fun new =>
        { module := id, site := .parent, new } := by
  rw [parentEdit?]
  cases hparent : (r.module id).parent with
  | none => rfl
  | some p =>
    obtain ⟨hgroup, hname, _⟩ := hliteral.parent p hparent
    have hnew : newParent? changes r id p =
        changes.get? (p.artifact.at (r.resolve id p.version)) := by
      rw [newParent?, newVersion?, r.resolve_of_not_hasReference id hgroup,
        r.resolve_of_not_hasReference id hname]
      rfl
    rw [Option.bind_some, hnew]
    cases hchanged : changes.get? (p.artifact.at (r.resolve id p.version)) with
    | none => simp [hchanged]
    | some new => simp [hchanged]

def newDeclared? (changes : VersionChanges) (r : Reactor) (id : Nat) (d : Declaration) :
    Option String :=
  d.version.bind (newVersion? changes r id d.group d.name)

/-- A declaration is edited exactly if it names a changed coordinate. -/
theorem entryEdit?_eq (changes : VersionChanges) (r : Reactor) (id : Nat) (d : Declaration) :
    (entryEdit? changes r id d).map Prod.snd =
      (newDeclared? changes r id d).map fun new =>
        { module := id, site := .entry d.address (r.declaredArtifact id d), new } := by
  rw [entryEdit?, newDeclared?]
  cases d.version with
  | none => rfl
  | some raw =>
    have hnew : newVersion? changes r id d.group d.name raw =
        changes.get? ((r.declaredArtifact id d).at (r.resolve id raw)) := rfl
    rw [Option.bind_some, hnew]
    cases hchanged : changes.get? ((r.declaredArtifact id d).at (r.resolve id raw)) <;>
      simp [hchanged]

/-- The edits of one module: of its declared parent, of itself, and of its dependencies. -/
theorem editsIn_eq :
    editsIn changes r id =
      ((parentEdit? changes r id).map Prod.snd).toList
        ++ ((ownCarrier? changes r id).map Carrier.edit).toList
        ++ ((r.module id).dependencyDeclarations.filterMap (entryEdit? changes r id)).map
          Prod.snd := by
  rw [editsIn, carriersIn, List.map_append, List.map_append, List.map_map, List.map_map,
    Option.toList_map, Option.toList_map]
  rfl

theorem foldl_on_entries (ds : List Declaration) (m : Module) :
    ((ds.filterMap (entryEdit? changes r id)).map Prod.snd).foldl (fun m e => e.on m) m =
      ds.foldl (Module.writeNew (newDeclared? changes r id)) m := by
  induction ds generalizing m with
  | nil => rfl
  | cons d later ih =>
    have hentry := entryEdit?_eq changes r id d
    rw [List.filterMap_cons, List.foldl_cons, Module.writeNew]
    cases hedit : entryEdit? changes r id d with
    | none =>
      rw [hedit] at hentry
      rw [Option.map_eq_none_iff.mp hentry.symm]
      exact ih m
    | some e =>
      rw [hedit] at hentry
      obtain ⟨new, hnew, he⟩ := Option.map_eq_some_iff.mp hentry.symm
      rw [hnew]
      simp only [List.map_cons, List.foldl_cons, ← he]
      exact ih _

theorem foldl_on_parent (new? : Parent → Option String) (m : Module) :
    ((m.parent.bind new?).map fun new => { module := id, site := .parent, new }).toList.foldl
        (fun m (e : Edit) => e.on m) m =
      { m with
        parent := m.parent.map fun p => { p with version := (new? p).getD p.version } } := by
  obtain ⟨group, name, version, packaging, parent, parentModule, body, profiles⟩ := m
  cases parent with
  | none => rfl
  | some p => cases hnew : new? p <;> simp [hnew, Edit.on, Module.withParentVersion]

/-- The edits of a module, one after the other, substitute all of its changed coordinates. -/
theorem foldl_on_editsIn (hliteral : (r.module id).Literal) :
    (editsIn changes r id).foldl (fun m e => e.on m) (r.module id) = substituted changes r id := by
  have hown : ∀ m : Module, ((ownCarrier? changes r id).map Carrier.edit).toList.foldl
      (fun m e => e.on m) m = { m with version := (newOwn? changes r id).or m.version } := by
    intro m
    rw [ownCarrier?_eq]
    cases newOwn? changes r id <;> rfl
  rw [editsIn_eq, List.foldl_append, List.foldl_append, parentEdit?_eq hliteral,
    foldl_on_parent, hown, foldl_on_entries]
  exact Module.foldl_writeNew (fun _ _ => rfl) _

theorem module_of_mem_editsIn {e : Edit} (he : e ∈ editsIn changes r id) : e.module = id := by
  rw [editsIn_eq, ownCarrier?_eq] at he
  simp only [List.mem_append, Option.mem_toList, Option.map_eq_some_iff, List.mem_map,
    List.mem_filterMap] at he
  rcases he with (⟨edit, hedit, rfl⟩ | ⟨new, _, rfl⟩) | ⟨edit, ⟨d, _, hedit⟩, rfl⟩
  · obtain ⟨_, _, _, _, rfl⟩ := parentEdit?_eq_some hedit
    rfl
  · rfl
  · obtain ⟨_, _, _, _, rfl⟩ := entryEdit?_eq_some hedit
    rfl

/-- No place of a module is edited twice. -/
theorem pairwise_editsIn :
    (editsIn changes r id).Pairwise fun e e' => ¬ e.site.target.SamePlace e'.site.target := by
  have hparent : ∀ e ∈ ((parentEdit? changes r id).map Prod.snd).toList, e.site = .parent := by
    intro e he
    obtain ⟨edit, hedit, rfl⟩ := Option.map_eq_some_iff.mp (Option.mem_toList.mp he)
    obtain ⟨_, _, _, _, rfl⟩ := parentEdit?_eq_some hedit
    rfl
  have hown : ∀ e ∈ ((ownCarrier? changes r id).map Carrier.edit).toList, e.site = .own := by
    intro e he
    rw [ownCarrier?_eq] at he
    obtain ⟨new, _, rfl⟩ := Option.map_eq_some_iff.mp (Option.mem_toList.mp he)
    rfl
  have hentry : ∀ e ∈ ((r.module id).dependencyDeclarations.filterMap
      (entryEdit? changes r id)).map Prod.snd, ∃ a artifact, e.site = .entry a artifact := by
    intro e he
    obtain ⟨edit, hedit, rfl⟩ := List.mem_map.mp he
    obtain ⟨d, _, hedit⟩ := List.mem_filterMap.mp hedit
    obtain ⟨_, _, _, _, rfl⟩ := entryEdit?_eq_some hedit
    exact ⟨_, _, rfl⟩
  have hone : ∀ (o : Option Edit) {R : Edit → Edit → Prop}, o.toList.Pairwise R := by
    intro o R
    cases o with
    | none => exact .nil
    | some e => exact List.pairwise_singleton R e
  rw [editsIn_eq, List.pairwise_append, List.pairwise_append]
  refine ⟨⟨hone _, hone _, ?_⟩, ?_, ?_⟩
  · intro e he e' he'
    rw [hparent e he, hown e' he']
    nofun
  · refine List.pairwise_map.mpr (List.pairwise_filterMap.mpr ?_)
    refine (List.pairwise_map.mp (r.module id).nodup_address_dependencyDeclarations).imp ?_
    intro d d' hne e he e' he'
    obtain ⟨_, _, _, _, rfl⟩ := entryEdit?_eq_some he
    obtain ⟨_, _, _, _, rfl⟩ := entryEdit?_eq_some he'
    exact hne
  · intro e he e' he'
    obtain ⟨a, artifact, hsite'⟩ := hentry e' he'
    rw [hsite']
    rcases List.mem_append.mp he with he | he
    · rw [hparent e he]
      nofun
    · rw [hown e he]
      nofun

theorem length_editsIn (hliteral : (r.module id).Literal) :
    (editsIn changes r id).length = (newTexts changes r id).length := by
  have hread : ∀ d, (entryEdit? changes r id d).map (fun e => e.2.new) =
      newDeclared? changes r id d := by
    intro d
    have hedit := congrArg (Option.map Edit.new) (entryEdit?_eq changes r id d)
    rw [Option.map_map, Option.map_map] at hedit
    exact hedit.trans (Option.map_id' ..)
  have hentries :
      ((r.module id).dependencyDeclarations.filterMap (entryEdit? changes r id)).length =
        ((r.module id).allDependencies.filterMap (newDependency? changes r id)).length := by
    have hdeclarations :
        (r.module id).dependencyDeclarations.filterMap (newDeclared? changes r id) =
          (r.module id).allDependencies.filterMap (newDependency? changes r id) :=
      Module.filterMap_dependencyDeclarations (fun _ _ => rfl) _
    rw [← hdeclarations]
    simp only [← hread, ← List.map_filterMap, List.length_map]
  rw [editsIn_eq, newTexts, parentEdit?_eq hliteral, ownCarrier?_eq]
  simp only [List.length_append, List.length_map, hentries, Option.toList_map]

end

/-! ## All modules -/

section

variable {changes : VersionChanges} {r : Reactor}

theorem add_of_inPlace {x : Carrier} (hplace : x.inPlace = true) (plan : Plan) :
    plan.add r x = { plan with edits := plan.edits ++ [x.edit] } := by
  rw [Carrier.inPlace, Option.isNone_iff_eq_none] at hplace
  rw [Plan.add]
  cases htext : x.text with
  | none => rfl
  | some raw =>
    rw [htext, Option.bind_some] at hplace
    simp only [Plan.push, hplace]

theorem foldl_add_of_inPlace {xs : List Carrier} (hxs : ∀ x ∈ xs, x.inPlace = true)
    (plan : Plan) :
    xs.foldl (Plan.add r) plan = { plan with edits := plan.edits ++ xs.map Carrier.edit } := by
  induction xs generalizing plan with
  | nil => simp
  | cons x later ih =>
    obtain ⟨hx, hlater⟩ := List.forall_mem_cons.mp hxs
    rw [List.foldl_cons, add_of_inPlace hx, ih hlater]
    simp

/-- A text without references is edited in its own place. -/
theorem inPlace_of_literal (hliteral : ∀ id < r.size, (r.module id).Literal) {x : Carrier}
    (hx : x ∈ carriers changes r) : x.inPlace = true := by
  obtain ⟨hinside, hfrom⟩ := mem_carriers hx
  have hmodule := hliteral _ hinside
  have htext : ∀ raw ∈ x.text, Template.hasReference raw = false := by
    intro raw hraw
    rw [Carrier.From] at hfrom
    split at hfrom
    · obtain ⟨p, hp, htext, _⟩ := hfrom
      rw [htext] at hraw
      obtain rfl := Option.some.inj hraw
      exact (hmodule.parent p hp).2.2
    · obtain ⟨_, _, htext, _⟩ := hfrom
      exact hmodule.own raw (htext ▸ hraw)
    · obtain ⟨d, hd, raw', hversion, htext, _⟩ := hfrom
      rw [htext] at hraw
      obtain rfl := Option.some.inj hraw
      -- the declaration is that of a dependency with the same text
      have hlisted := List.mem_filterMap.mpr ⟨d, hd, hversion⟩
      have hdeclarations : (r.module x.edit.module).dependencyDeclarations.filterMap
          Declaration.version = (r.module x.edit.module).allDependencies.filterMap
          Dependency.version := Module.filterMap_dependencyDeclarations (fun _ _ => rfl) _
      rw [hdeclarations] at hlisted
      obtain ⟨d', hd', hversion'⟩ := List.mem_filterMap.mp hlisted
      exact hmodule.dependencies d' hd' _ hversion'
  rw [Carrier.inPlace, Option.isNone_iff_eq_none, Option.bind_eq_none_iff]
  exact fun raw hraw => Template.single?_of_not_hasReference (htext raw hraw)

/-- Where all versions are literal, no property is written: the edits are made one after the other.
-/
theorem apply_literal (hliteral : ∀ id < r.size, (r.module id).Literal) (report : Report) :
    changes.apply r report =
      (r.order.flatMap (editsIn changes r)).foldl commitEdit { reactor := r, report } := by
  have hplan : plan changes r report =
      { edits := r.order.flatMap (editsIn changes r), report } := by
    rw [plan_eq, foldl_add_of_inPlace fun x hx => inPlace_of_literal hliteral hx, carriers,
      List.map_flatMap]
    rfl
  rw [apply_eq, hplan]
  rfl

theorem module_apply_literal (changes : VersionChanges)
    (hliteral : ∀ id < r.size, (r.module id).Literal) (report : Report) {id : Nat}
    (hid : id < r.size) :
    (changes.apply r report).reactor.module id = substituted changes r id := by
  have hinside : ∀ e ∈ r.order.flatMap (editsIn changes r), e.module < r.size := by
    intro e he
    obtain ⟨id', hid', he⟩ := List.mem_flatMap.mp he
    rw [module_of_mem_editsIn he]
    exact Reactor.lt_of_mem_order hid'
  rw [apply_literal hliteral, module_foldl_commitEdit hinside,
    filter_flatMap_of_key (fun _ _ he => module_of_mem_editsIn he) r.nodup_order
      (r.mem_order hid)]
  exact foldl_on_editsIn (hliteral id hid)

/-- No place of the reactor is edited twice. -/
theorem pairwise_edits (changes : VersionChanges) (r : Reactor) :
    (r.order.flatMap (editsIn changes r)).Pairwise fun e e' =>
      ¬ (e.module = e'.module ∧ e.site.target.SamePlace e'.site.target) := by
  refine List.pairwise_flatMap.mpr ⟨fun id _ => ?_, r.nodup_order.imp ?_⟩
  · exact pairwise_editsIn.imp fun hne h => hne h.2
  · intro id id' hne e he e' he' hsame
    rw [module_of_mem_editsIn he, module_of_mem_editsIn he'] at hsame
    exact hne hsame.1

/-- In a reactor whose version texts hold no references, version changes are one simultaneous
substitution. Every module has its new texts and is otherwise as it was, every new text counts as
one edit, and no place is written twice. -/
theorem apply_substitutes {r : Reactor} (hliteral : ∀ m ∈ r.modules, m.Literal)
    (changes : VersionChanges) (report : Report) :
    (changes.apply r report).reactor.modules = r.ids.map (substituted changes r) ∧
      (changes.apply r report).edits = (r.ids.flatMap (newTexts changes r)).length ∧
      ∃ made, (changes.apply r report).report.changes = report.changes ++ made ∧
        made.length = (changes.apply r report).edits ∧
        made.Pairwise fun c c' => ¬ (c.module = c'.module ∧ c.target.SamePlace c'.target) := by
  have hmodules : ∀ id < r.size, (r.module id).Literal := by
    intro id hid
    rw [Reactor.module, List.getElem?_eq_getElem hid]
    exact hliteral _ (List.getElem_mem hid)
  have hcount : (changes.apply r report).edits = (r.order.flatMap (editsIn changes r)).length := by
    rw [apply_literal hmodules, edits_foldl_commitEdit, Nat.zero_add]
  refine ⟨?_, ?_, ?_⟩
  · have hsize : (changes.apply r report).reactor.modules.length = r.size :=
      (apply_written changes r report).links.size
    refine List.ext_getElem (by simp [hsize, Reactor.ids]) fun id hid' _ => ?_
    have hmodule := module_apply_literal changes hmodules report (hsize ▸ hid')
    rw [Reactor.module, List.getElem?_eq_getElem hid'] at hmodule
    simpa [Reactor.ids] using hmodule
  · rw [hcount, ← (r.perm_order.flatMap_right _).length_eq, List.length_flatMap,
      List.length_flatMap]
    refine congrArg List.sum (List.map_congr_left fun id hid => ?_)
    exact length_editsIn (hmodules id (Reactor.lt_of_mem_order hid))
  · obtain ⟨made, hmade, hplaces⟩ := changes_foldl_commitEdit
      (r.order.flatMap (editsIn changes r)) { reactor := r, report }
    have hlength := congrArg List.length hplaces
    rw [List.length_map, List.length_map] at hlength
    refine ⟨made, ?_, hlength.trans hcount.symm, ?_⟩
    · rw [apply_literal hmodules]
      exact hmade
    · have hpairwise : ((r.order.flatMap (editsIn changes r)).map fun e =>
          (e.module, e.site.target)).Pairwise fun place place' =>
            ¬ (place.1 = place'.1 ∧ place.2.SamePlace place'.2) :=
        List.pairwise_map.mpr (pairwise_edits changes r)
      rw [← hplaces] at hpairwise
      exact List.pairwise_map.mp hpairwise

end

/-- A root that inherits its version from outside, and a child of it with a profile. -/
def rootAndChild : Reactor where
  modules := [
    { name := "root", parent := some { group := "org.x", name := "base", version := "1" } },
    { name := "lib", version := some "1", parentModule := some 0
      parent := some { group := "org.x", name := "root", version := "1" }
      body := { managedDependencies := [{ group := "org.y", name := "dep", version := some "2" }] }
      profiles := [{ id := "ci", body := { dependencies := [
        { group := "org.y", name := "dep", version := some "1" },
        { group := "org.x", name := "root", version := some "2" }] } }] }]
  forest := Reactor.forest_of_checks (by simp) (by decide) (by decide)

/-- Changes that give the root, and a dependency, the old version of another change. -/
def successiveChanges : VersionChanges :=
  .ofList [
    (({ group := "org.x", name := "root" } : Artifact).at "1", "2"),
    (({ group := "org.x", name := "root" } : Artifact).at "2", "3"),
    (({ group := "org.y", name := "dep" } : Artifact).at "1", "2"),
    (({ group := "org.y", name := "dep" } : Artifact).at "2", "3")]

theorem apply_substitutes_successive :
    (∀ m ∈ rootAndChild.modules, m.Literal) ∧
      (successiveChanges.apply rootAndChild {}).reactor.modules = [
        { name := "root", version := some "2"
          parent := some { group := "org.x", name := "base", version := "1" } },
        { name := "lib", version := some "1", parentModule := some 0
          parent := some { group := "org.x", name := "root", version := "2" }
          body := {
            managedDependencies := [{ group := "org.y", name := "dep", version := some "3" }] }
          profiles := [{ id := "ci", body := { dependencies := [
            { group := "org.y", name := "dep", version := some "2" },
            { group := "org.x", name := "root", version := some "3" }] } }] }] ∧
      (successiveChanges.apply rootAndChild {}).edits = 5 := by
  have hliteral : ∀ m ∈ rootAndChild.modules, m.Literal := by decide +kernel
  obtain ⟨hmodules, hedits, _⟩ := apply_substitutes hliteral successiveChanges {}
  refine ⟨hliteral, hmodules.trans ?_, hedits.trans ?_⟩
  · decide +kernel
  · decide +kernel

end VersionChanges

end BuildAlign
