import BuildAlign.Proofs.Reactor.Nesting
import BuildAlign.Proofs.Reactor.Rewording
import BuildAlign.Proofs.Table
import BuildAlign.Stage.ProjectVersion

/-!
Replacing the own-version reference, and what becomes of resolved versions. The reference stands for
the version of the module that reads it; what replaces it is the version of the module that declares
it. The two are the same for declarations and for what a module reads of itself, and they may differ
for properties that descendants read.
-/

namespace BuildAlign

namespace ProjectVersion

variable {r r' r'' : Reactor} {id : Nat} {version : String}

/-! ## The reference -/

theorem hasReference_reference : Template.hasReference reference = true := by
  decide

theorem mem_references_reference : "project.version" ∈ Template.references reference := by
  decide

/-- The reference stands for the version as it is written in the module. -/
theorem expand_reference {raw : String} (hraw : (r.module id).writtenVersion = some raw)
    (depth : Nat) : r.expand id (depth + 1) reference.toList = r.expand id depth raw.toList := by
  have htext : reference = Template.referenceText "project.version" := by decide
  rw [htext]
  exact r.expand_referenceText id depth (by decide) hraw

/-- A version without references is the full value of the version as it is written. -/
theorem nested_version (hversion : r.version? id = some version)
    (hconcrete : Template.hasReference version = false) :
    ∃ raw, (r.module id).writtenVersion = some raw ∧ r.resolve id raw = version ∧
      r.NestedUpTo id (Reactor.maxDepth + 1) raw := by
  obtain ⟨raw, hraw, rfl⟩ := Option.map_eq_some_iff.mp hversion
  exact ⟨raw, hraw, rfl, Reactor.nestedUpTo_of_resolve hconcrete⟩

/-- A version without references does not depend on a property whose value refers to it. -/
theorem lookup_ne_reference {raw name : String} {depth : Nat}
    (hraw : (r.module id).writtenVersion = some raw) (hnested : r.NestedUpTo id depth raw)
    {n : Nat} (hname : name ∈ r.namesReadUpTo id n raw.toList) :
    r.lookup id name ≠ some reference := by
  intro hvalue
  -- each round through the property would be nested less deep than the one before
  induction depth using Nat.strong_induction_on with
  | _ depth ih =>
    obtain ⟨less, hlt, hless⟩ := hnested.value hname hvalue
    cases less with
    | zero => cases (hless _ mem_references_reference).symm.trans hraw
    | succ less => exact ih less (by omega) (hless _ mem_references_reference raw hraw)

/-- Only the reference is replaced, so a version without references stays. -/
theorem version?_kept {Q : Nat → String → String → Prop} (h : r.Reworded Q r')
    (hQ : ∀ id a b, Q id a b → a = reference) (hversion : r.version? id = some version)
    (hconcrete : Template.hasReference version = false) : r'.version? id = some version := by
  obtain ⟨raw, hraw, hresolve, hnested⟩ := nested_version hversion hconcrete
  have hlookup : ∀ name ∈ r.namesRead id raw, r'.lookup id name = r.lookup id name := by
    intro name hname
    refine (h.lookup id name).resolve_right ?_
    rintro ⟨place, value, _, hvalue, _, hplace⟩
    rw [hQ _ _ _ hplace] at hvalue
    exact lookup_ne_reference hraw hnested hname hvalue
  rw [Reactor.version?, h.writtenVersion, hraw, Option.map_some, Reactor.resolve_congr hlookup,
    hresolve]

/-! ## What a run replaces -/

/-- A text takes the place of the reference in a module: the version of the module, if that has no
references. -/
def StandsIn (r : Reactor) (id : Nat) (old new : String) : Prop :=
  old = reference ∧ Template.hasReference new = false ∧ r.version? id = some new

/-- A reactor in which the reference is replaced, here and there, by versions of its modules. -/
def Enforced (r r' : Reactor) : Prop :=
  r.Reworded (StandsIn r') r'

namespace Enforced

theorem refl (r : Reactor) : Enforced r r :=
  Reactor.Reworded.refl r

theorem version? (h : Enforced r r') (hversion : r.version? id = some version)
    (hconcrete : Template.hasReference version = false) : r'.version? id = some version :=
  version?_kept h (fun _ _ _ hab => hab.1) hversion hconcrete

/-- Replacements one after the other. A version that was put in stays the version of its module, so
the first ones remain right. -/
theorem trans (h : Enforced r r') (h' : Enforced r' r'') : Enforced r r'' := by
  have hkept : ∀ id a b, StandsIn r' id a b → StandsIn r'' id a b := fun _ _ _ hab =>
    ⟨hab.1, hab.2.1, h'.version? hab.2.2 hab.2.1⟩
  exact (Reactor.Reworded.mono hkept h).trans (fun _ _ _ _ hab hbc => ⟨hab.1, hbc.2⟩) h'

/-- One version in place of the reference, in its own module. -/
theorem of_reworded (hversion : r.version? id = some version)
    (hconcrete : Template.hasReference version = false)
    (h : r.Reworded (fun id' a b => id' = id ∧ a = reference ∧ b = version) r') :
    Enforced r r' := by
  have hkept := version?_kept h (fun _ _ _ hab => hab.2.1) hversion hconcrete
  refine h.mono ?_
  rintro id a b ⟨rfl, ha, rfl⟩
  exact ⟨ha, hconcrete, hkept⟩

/-- The version of a module in place of the reference in one of its declarations. Where it stands
already, nothing changes. -/
theorem setSlot {a : Address} (hversion : r.version? id = some version)
    (hconcrete : Template.hasReference version = false)
    (h : ∀ d ∈ (r.module id).declarations, d.address = a →
      d.version = some reference ∨ d.version = some version) :
    Enforced r (r.setSlot id a version) := by
  refine of_reworded hversion hconcrete (r.reworded_modify id _ _ ?_)
  refine Module.reworded_setSlot _ a version fun d hd ha => ?_
  rcases h d hd ha with hreference | hdone
  · exact .inr ⟨_, _, hreference, rfl, rfl, rfl, rfl⟩
  · exact .inl hdone.symm

theorem setProperty {scope : Scope} {name : String} (hversion : r.version? id = some version)
    (hconcrete : Template.hasReference version = false)
    (h : (r.module id).property? scope name = some reference ∨
      (r.module id).property? scope name = some version) :
    Enforced r (r.setProperty id scope name version) := by
  refine of_reworded hversion hconcrete (r.reworded_modify id _ _ ?_)
  refine Module.reworded_setProperty _ scope name version ?_
  rcases h with hreference | hdone
  · exact .inr ⟨_, _, hreference, rfl, rfl, rfl, rfl⟩
  · exact .inl hdone.symm

/-- What was the reference is still it, or the version of its module. -/
theorem replaced {old new : Option String} (h : Replaced (StandsIn r' id) old new)
    (hold : old = some reference) (hversion : r'.version? id = some version) :
    new = some reference ∨ new = some version := by
  rcases h with rfl | ⟨_, b, _, rfl, _, _, hb⟩
  · exact .inl hold
  · exact .inr (hb.symm.trans hversion)

/-- Steps that write one version into its module, one after the other. -/
theorem foldl {α : Type} (step : Progress → α → Progress) (items : List α) {p : Progress}
    (hversion : p.reactor.version? id = some version)
    (hconcrete : Template.hasReference version = false) (h : Enforced r p.reactor)
    (hstep : ∀ p : Progress, Enforced r p.reactor → p.reactor.version? id = some version →
      ∀ x ∈ items, Enforced p.reactor (step p x).reactor) :
    Enforced r (items.foldl step p).reactor ∧
      (items.foldl step p).reactor.version? id = some version := by
  induction items generalizing p with
  | nil => exact ⟨h, hversion⟩
  | cons x later ih =>
    have hx := hstep p h hversion x (List.mem_cons_self ..)
    exact ih (hx.version? hversion hconcrete) (h.trans hx) fun p h hversion x hx =>
      hstep p h hversion x (List.mem_cons_of_mem _ hx)

end Enforced

theorem concrete?_eq_some (h : concrete? r id = some version) :
    r.version? id = some version ∧ Template.hasReference version = false := by
  rw [concrete?] at h
  split at h
  · obtain ⟨hversion, hconcrete⟩ := Option.filter_eq_some_iff.mp h
    exact ⟨hversion, by simpa using hconcrete⟩
  · cases h

theorem property?_of_mem_referringProperties {m : Module} {item : Scope × String}
    (h : item ∈ referringProperties m) : m.property? item.1 item.2 = some reference := by
  obtain ⟨⟨scope, body⟩, hbody, hitem⟩ := List.mem_flatMap.mp h
  obtain ⟨⟨name, value⟩, hentry, rfl⟩ := List.mem_map.mp hitem
  obtain ⟨hentry, hvalue⟩ := List.mem_filter.mp hentry
  have hget := Table.get?_of_mem hentry
  rw [Module.property?, Module.body?_of_mem_bodies hbody, ← beq_iff_eq.mp hvalue]
  exact hget

/-- The work on one module, its dependencies and then its properties. -/
theorem enforced_replaceModule (p : Progress) (id : Nat) :
    Enforced p.reactor (replaceModule p id).reactor := by
  rw [replaceModule]
  split
  · exact .refl _
  · rename_i version hconcrete?
    obtain ⟨hversion, hconcrete⟩ := concrete?_eq_some hconcrete?
    dsimp only
    have hslots := Enforced.foldl (replaceSlot id (p.reactor.artifact id) version)
      ((p.reactor.module id).dependencyDeclarations.filter (·.version == some reference))
      hversion hconcrete (.refl p.reactor) ?slots
    case slots =>
      intro p' hp' hversion' d hd
      obtain ⟨hmem, hreference⟩ := List.mem_filter.mp hd
      have hd : d ∈ (p.reactor.module id).declarations :=
        List.mem_append_left _ (List.mem_append_left _ hmem)
      obtain ⟨d', hd', haddress, hreplaced⟩ := (hp'.module id).declaration hd
      refine .setSlot hversion' hconcrete fun e he ha => ?_
      obtain rfl := Module.eq_of_address_eq he hd' (ha.trans haddress.symm)
      exact Enforced.replaced hreplaced (beq_iff_eq.mp hreference) hversion'
    refine (Enforced.foldl _ _ hslots.2 hconcrete hslots.1 fun p' hp' hversion' item hitem => ?_).1
    refine .setProperty hversion' hconcrete ?_
    exact Enforced.replaced ((hp'.module id).property item.1 item.2)
      (property?_of_mem_referringProperties hitem) hversion'

/-- A run replaces the reference by versions, and no other text by anything. -/
theorem enforced_run (p : Progress) : Enforced p.reactor (run p).reactor := by
  have hfold : ∀ (ids : List Nat) (p : Progress),
      Enforced p.reactor (ids.foldl replaceModule p).reactor := by
    intro ids
    induction ids with
    | nil => exact fun p => .refl p.reactor
    | cons id later ih => exact fun p => (enforced_replaceModule p id).trans (ih _)
  rw [run]
  exact hfold p.reactor.ids p

/-! ## Resolved versions -/

/-- Where the reference is nested no deeper than it is expanded, it has the full version of its
module. -/
theorem expand_reference_of_nested {depth : Nat} (hnested : r.NestedUpTo id depth reference)
    (hversion : r.version? id = some version) (hconcrete : Template.hasReference version = false) :
    r.expand id depth reference.toList = version.toList := by
  obtain ⟨raw, hraw, hresolve, hfull⟩ := nested_version hversion hconcrete
  cases depth with
  | zero => cases (hnested _ mem_references_reference).symm.trans hraw
  | succ depth =>
    have hwritten : r.NestedUpTo id depth raw := hnested _ mem_references_reference raw hraw
    calc r.expand id (depth + 1) reference.toList
        = r.expand id depth raw.toList := expand_reference hraw depth
      _ = r.expand id (max depth (Reactor.maxDepth + 1)) raw.toList :=
          (hwritten.expand (Nat.le_max_left ..)).symm
      _ = r.expand id (Reactor.maxDepth + 1) raw.toList := hfull.expand (Nat.le_max_right ..)
      _ = version.toList := by rw [← hresolve, Reactor.resolve, String.toList_ofList]

namespace Enforced

/-- Replacing the reference nests nothing deeper. -/
theorem nestedUpTo (h : Enforced r r') {depth : Nat} {raw : String}
    (hnested : r.NestedUpTo id depth raw) : r'.NestedUpTo id depth raw := by
  induction depth generalizing raw with
  | zero =>
    intro name hname
    rcases h.lookup id name with hsame | ⟨_, _, _, hvalue, _⟩
    · exact hsame.trans (hnested name hname)
    · cases (hnested name hname).symm.trans hvalue
  | succ depth ih =>
    intro name hname value hvalue
    rcases h.lookup id name with hsame | ⟨_, _, _, _, hvalue', _, hconcrete, _⟩
    · exact ih (hnested name hname value (hsame.symm.trans hvalue))
    · obtain rfl := Option.some.inj (hvalue.symm.trans hvalue')
      exact Reactor.nestedUpTo_of_not_hasReference hconcrete depth

/-- A text is expanded alike if every replaced property that it reads was declared in a module with
the version of the module that reads it. -/
theorem expand (h : Enforced r r') {depth : Nat} {raw : String}
    (hnested : r.NestedUpTo id depth raw)
    (hown : ∀ name ∈ r.namesReadUpTo id depth raw.toList, ∀ place,
      r.nearestPlace? id name = some place → r'.lookup id name ≠ r.lookup id name →
      r'.version? place.module = r.version? id) :
    r'.expand id depth raw.toList = r.expand id depth raw.toList := by
  induction depth generalizing raw with
  | zero => rfl
  | succ depth ih =>
    rw [Reactor.expand_eq_flatMap, Reactor.expand_eq_flatMap]
    refine List.flatMap_congr fun piece hpiece => ?_
    cases piece with
    | plain text => rfl
    | reference chars =>
      have hname := Template.mem_references hpiece
      rw [Reactor.namesReadUpTo] at hown
      rw [Reactor.expandPiece, Reactor.expandPiece]
      rcases h.lookup id (String.ofList chars) with hsame | hreplaced
      · rw [hsame]
        cases hlookup : r.lookup id (String.ofList chars) with
        | none => rfl
        | some value =>
          refine ih (hnested _ hname value hlookup) fun name' hname' => ?_
          refine hown name' (List.mem_flatMap.mpr ⟨_, hpiece, List.mem_cons_of_mem _ ?_⟩)
          rwa [hlookup]
      · obtain ⟨place, value, hplace, hold, hnew, hvalue, hconcrete, hversion⟩ := hreplaced
        have hchanged : r'.lookup id (String.ofList chars) ≠ r.lookup id (String.ofList chars) := by
          rw [hold, hnew, hvalue]
          intro hsame
          rw [Option.some.inj hsame, hasReference_reference] at hconcrete
          cases hconcrete
        have hmodule := hown _ (List.mem_flatMap.mpr ⟨_, hpiece, List.mem_cons_self ..⟩) place
          hplace hchanged
        rw [hvalue] at hold
        simp only [hold, hnew]
        rw [r'.expand_of_not_hasReference id depth hconcrete]
        exact (expand_reference_of_nested (hnested _ hname reference hold)
          (hmodule.symm.trans hversion) hconcrete).symm

end Enforced

/-- A declaration has the same resolved version, at the same address, after a run. -/
def Keeps (p : Progress) (id : Nat) (d : Declaration) : Prop :=
  ∃ d' ∈ ((run p).reactor.module id).declarations, d'.address = d.address ∧
    d'.version.map ((run p).reactor.resolve id) = d.version.map (p.reactor.resolve id)

instance (p : Progress) (id : Nat) (d : Declaration) : Decidable (Keeps p id d) :=
  inferInstanceAs (Decidable (∃ d' ∈ _, _))

/-- A run replaces a declaration, or the value of a property that its version depends on. -/
def Touches (p : Progress) (id : Nat) (d : Declaration) : Prop :=
  d ∉ ((run p).reactor.module id).declarations ∨
    ∃ raw, d.version = some raw ∧ ∃ name ∈ p.reactor.namesRead id raw,
      (run p).reactor.lookup id name ≠ p.reactor.lookup id name

/-- How a declaration gets another version: it depends on a property whose value is replaced by the
version of a module that has not the version of the reading one, or its references are nested
deeper than they are expanded. -/
inductive Strays (p : Progress) (id : Nat) (d : Declaration) : Prop where
  | elsewhere {raw name : String} {place : PropertyPlace} (text : d.version = some raw)
      (read : name ∈ p.reactor.namesRead id raw)
      (nearest : p.reactor.nearestPlace? id name = some place)
      (replaced : (run p).reactor.lookup id name ≠ p.reactor.lookup id name)
      (version : (run p).reactor.version? place.module ≠ p.reactor.version? id)
  | deep {raw : String} (text : d.version = some raw) (touched : Touches p id d)
      (nested : ¬ p.reactor.NestedUpTo id (Reactor.maxDepth + 1) raw)

theorem Touches.nestedUpTo {p : Progress} {d : Declaration} {raw : String}
    (htouched : Touches p id d) (htext : d.version = some raw) (h : ¬ Strays p id d) :
    p.reactor.NestedUpTo id (Reactor.maxDepth + 1) raw := by
  by_contra hdeep
  exact h (.deep htext htouched hdeep)

/-- The text as it was has the same value after a run. -/
theorem resolve_of_not_strays {p : Progress} {d : Declaration} {raw : String}
    (htext : d.version = some raw) (h : ¬ Strays p id d) :
    (run p).reactor.resolve id raw = p.reactor.resolve id raw := by
  by_cases htouched : Touches p id d
  · rw [Reactor.resolve, Reactor.resolve, (enforced_run p).expand (htouched.nestedUpTo htext h)]
    intro name hname place hplace hreplaced
    by_contra hother
    exact h (.elsewhere htext hname hplace hreplaced hother)
  · refine Reactor.resolve_congr fun name hname => ?_
    by_contra hreplaced
    exact htouched (.inr ⟨raw, htext, name, hname, hreplaced⟩)

/-- A run keeps the resolved version of every declaration, but for those that depend on the version
of another module through a property, and for those whose references are nested too deep. -/
theorem resolved_kept {p : Progress} {id : Nat} {d : Declaration}
    (hd : d ∈ (p.reactor.module id).declarations) (h : ¬ Strays p id d) : Keeps p id d := by
  have hrun := enforced_run p
  obtain ⟨d', hd', haddress, hversion⟩ := (hrun.module id).declaration hd
  refine ⟨d', hd', haddress, ?_⟩
  rcases hversion with hsame | ⟨_, version, htext, hnew, rfl, hconcrete, hown⟩
  · rw [hsame]
    cases htext : d.version with
    | none => rw [Option.map_none, Option.map_none]
    | some raw => rw [Option.map_some, Option.map_some, resolve_of_not_strays htext h]
  · -- the text was the reference itself, and it has the value that now stands in its place
    have htouched : Touches p id d := by
      refine .inl fun hkept => ?_
      have hsame := Module.eq_of_address_eq hkept hd' haddress.symm
      rw [← hsame, htext] at hnew
      rw [← Option.some.inj hnew, hasReference_reference] at hconcrete
      cases hconcrete
    have hnested := hrun.nestedUpTo (htouched.nestedUpTo htext h)
    have hvalue : (run p).reactor.resolve id reference = version := by
      rw [Reactor.resolve, expand_reference_of_nested hnested hown hconcrete, String.ofList_toList]
    rw [htext, hnew, Option.map_some, Option.map_some, ← resolve_of_not_strays htext h, hvalue,
      Reactor.resolve_of_not_hasReference _ _ hconcrete]

/-- After a run an alias of a replaced property has the version of the module that declares the
property, in whichever module it is read. -/
theorem resolve_alias {p : Progress} {id : Nat} {name : String} {place : PropertyPlace}
    (hclosing : Template.closing ∉ name.toList) (hbuiltin : ProjectPart.ofName? name = none)
    (hplace : p.reactor.nearestPlace? id name = some place)
    (hreplaced : (run p).reactor.lookup id name ≠ p.reactor.lookup id name) :
    (run p).reactor.version? place.module =
      some ((run p).reactor.resolve id (Template.referenceText name)) := by
  obtain ⟨place', value, hplace', _, hvalue, _, hconcrete, hversion⟩ :=
    ((enforced_run p).lookup id name).resolve_left hreplaced
  obtain rfl := Option.some.inj (hplace'.symm.trans hplace)
  rw [Reactor.lookup, hbuiltin] at hvalue
  rw [hversion, Reactor.resolve, Reactor.expand_reference _ id _ hclosing hbuiltin hvalue,
    Reactor.expand_of_not_hasReference _ id _ hconcrete, String.ofList_toList]

/-- A parent with a property that is the reference, and a child that reads the property. -/
def parentAndChild (childVersion : Option String) : Reactor where
  modules := [
    { group := some "org.app", name := "parent", version := some "1.0", packaging := "pom"
      body :=
        { properties := Table.ofList [("app.version", reference)]
          managedDependencies :=
            [{ group := "org.app", name := "core", version := some reference }] } },
    { name := "child", version := childVersion
      parent := some { group := "org.app", name := "parent", version := "1.0" }
      parentModule := some 0
      body :=
        { dependencies :=
            [{ group := "org.app", name := "core", version := some "$\x7bapp.version\x7d" }] } }]
  forest := Reactor.forest_of_checks (by simp) rfl rfl

/-- The names of properties that are aliases one of the next. -/
def revisionName (i : Nat) : String :=
  "v" ++ toString i

/-- A module with the reference in a dependency, and with its version at the end of seventeen
aliases. -/
def deepRevision : Reactor where
  modules := [
    { group := some "org.app", name := "app", packaging := "pom"
      version := some (Template.referenceText (revisionName 1))
      body :=
        { properties := Table.ofList (("v17", "1.0") :: (List.range 16).map fun i =>
            (revisionName (i + 1), Template.referenceText (revisionName (i + 2))))
          dependencies := [{ group := "org.app", name := "core", version := some reference }] } }]
  forest := Reactor.forest_of_checks (by simp) (by decide) (by decide)

/-- If the child inherits its version, the versions of both modules are resolved as before. -/
theorem resolved_kept_inherited :
    (∃ d ∈ ((parentAndChild none).module 0).declarations, d.version = some reference ∧
      Keeps { reactor := parentAndChild none, report := {} } 0 d) ∧
    ∃ d ∈ ((parentAndChild none).module 1).declarations,
      d.version = some "$\x7bapp.version\x7d" ∧
        Keeps { reactor := parentAndChild none, report := {} } 1 d := by
  have hversions : ∀ id < 2, ∀ d ∈ ((parentAndChild none).module id).declarations,
      ∀ raw ∈ d.version, Template.hasReference ((parentAndChild none).resolve id raw) = false ∧
        ∀ name ∈ (parentAndChild none).namesRead id raw,
          ∀ place ∈ (parentAndChild none).nearestPlace? id name,
            (run { reactor := parentAndChild none, report := {} }).reactor.version? place.module =
              (parentAndChild none).version? id := by
    decide +kernel
  have hkept : ∀ id < 2, ∀ d ∈ ((parentAndChild none).module id).declarations,
      Keeps { reactor := parentAndChild none, report := {} } id d := by
    intro id hid d hd
    refine resolved_kept hd fun hstrays => ?_
    cases hstrays with
    | elsewhere text read nearest _ version =>
      exact version ((hversions id hid d hd _ text).2 _ read _ nearest)
    | deep text _ nested =>
      exact nested (Reactor.nestedUpTo_of_resolve (hversions id hid d hd _ text).1)
  have hmanaged : ∃ d ∈ ((parentAndChild none).module 0).declarations,
      d.version = some reference := by
    decide +kernel
  have hread : ∃ d ∈ ((parentAndChild none).module 1).declarations,
      d.version = some "$\x7bapp.version\x7d" := by
    decide +kernel
  obtain ⟨managed, hmanaged, hmanagedText⟩ := hmanaged
  obtain ⟨read, hread, hreadText⟩ := hread
  exact ⟨⟨managed, hmanaged, hmanagedText, hkept 0 (by decide) managed hmanaged⟩,
    ⟨read, hread, hreadText, hkept 1 (by decide) read hread⟩⟩

/-- If the child has a version of its own, its dependency gets that of the parent. And a version that
is nested too deep for the reference, but not for the module itself, is found by the run only. -/
theorem replacing_changes_versions :
    (∃ d ∈ ((parentAndChild (some "2.0")).module 1).declarations,
      ¬ Keeps { reactor := parentAndChild (some "2.0"), report := {} } 1 d) ∧
    ∃ d ∈ (deepRevision.module 0).declarations,
      ¬ Keeps { reactor := deepRevision, report := {} } 0 d := by
  decide +kernel

end ProjectVersion

end BuildAlign
