import BuildAlign.Proofs.Reactor.Nesting
import BuildAlign.Proofs.Versioning.Cycles

/-!
Which version changes take effect. A module takes its version from its own text or from that of its
declared parent, and the text may lead through aliases to a property. The stage writes the new
version where the text or the property stands, so the module follows its change, unless the text is
one that the stage does not touch, or another text claims a property on the way for another version.
-/

namespace BuildAlign

open Template (opening)

namespace Reactor

/-- Every module with a parent in the reactor declares the coordinate of that parent. -/
def DeclaresParents (r : Reactor) : Prop :=
  ∀ id < r.size, ∀ p, r.parent? id = some p → ∃ parent, (r.module id).parent = some parent ∧
    parent.artifact = r.artifact p ∧ r.version? p = some (r.resolve id parent.version)

end Reactor

namespace VersionChanges

open Reactor (maxDepth nestedUpTo_of_expand)

/-! ## Along the aliases -/

section

variable {edits : List Edit} {properties : PropertySlot → Option String} {r r' : Reactor} {id : Nat}
  {new : String}

/-- If nothing on the way of a place gets another value than the new one, and the place at the end
does get it, then the place is expanded to it. -/
theorem Written.expand_place (h : Written edits properties r r')
    (hnew : ∀ n, r'.expand id n new.toList = new.toList) {m n : Nat} {place : PropertyPlace}
    (hpath : ∀ p ∈ r.aliasPathUpTo id m place, ∀ value ∈ properties p.slot, value = new)
    (hlast : properties (r.followAliases id m place).slot = some new)
    (hdeep : n < m → ¬ opening <:+: r.expand id n place.value.toList) :
    r'.expand id n ((properties place.slot).getD place.value).toList = new.toList := by
  induction m generalizing n place with
  | zero =>
    rw [Reactor.followAliases] at hlast
    rw [hlast, Option.getD_some, hnew]
  | succ m ih =>
    cases hplanned : properties place.slot with
    | some value =>
      have hmem : place ∈ r.aliasPathUpTo id (m + 1) place := by
        rw [Reactor.aliasPathUpTo]
        exact List.mem_cons_self ..
      rw [Option.getD_some, hpath place hmem value hplanned, hnew]
    | none =>
      rw [Reactor.followAliases] at hlast
      rw [Reactor.aliasPathUpTo] at hpath
      cases hnext : r.nextPlace? id place with
      | none =>
        rw [hnext] at hlast
        cases hplanned.symm.trans hlast
      | some next =>
        rw [hnext] at hlast hpath
        obtain ⟨name, htarget, hnearest⟩ := Reactor.nextPlace?_eq_some hnext
        obtain ⟨hvalue, hclosing, hbuiltin⟩ := propertyOf?_eq_some htarget
        have hreference : opening <:+: place.value.toList := by
          rw [hvalue, ← Text.occurs_iff]
          exact Template.hasReference_referenceText name
        have hbefore : r.declaredProperty? id name = some next.value := by
          rw [Reactor.declaredProperty?_eq, hnearest, Option.map_some]
        have hafter : r'.declaredProperty? id name =
            some ((properties next.slot).getD next.value) := by
          rw [h.declaredProperty?, hnearest, Option.map_some]
        cases n with
        | zero => exact absurd hreference (hdeep (Nat.zero_lt_succ m))
        | succ n =>
          rw [Option.getD_none, hvalue, r'.expand_reference id n hclosing hbuiltin hafter]
          refine ih (fun p hp => hpath p (List.mem_cons_of_mem _ hp)) hlast fun hn => ?_
          have hdeep := hdeep (Nat.succ_lt_succ hn)
          rwa [hvalue, r.expand_reference id n hclosing hbuiltin hbefore] at hdeep

/-- The same for a text that is a reference to a property. -/
theorem Written.expand_property (h : Written edits properties r r')
    (hnew : ∀ n, r'.expand id n new.toList = new.toList) {raw name : String} {place : PropertyPlace}
    (hname : propertyOf? raw = some name) (hplace : r.locate? id name = some place)
    (hpath : ∀ p ∈ r.aliasPath id name, ∀ value ∈ properties p.slot, value = new)
    (hlast : properties place.slot = some new) {n : Nat}
    (hdeep : n ≤ maxDepth → ¬ opening <:+: r.expand id n raw.toList) :
    r'.expand id n raw.toList = new.toList := by
  obtain ⟨hraw, hclosing, hbuiltin⟩ := propertyOf?_eq_some hname
  obtain ⟨first, hnearest, rfl⟩ := Option.map_eq_some_iff.mp hplace
  have hbefore : r.declaredProperty? id name = some first.value := by
    rw [Reactor.declaredProperty?_eq, hnearest, Option.map_some]
  have hafter : r'.declaredProperty? id name =
      some ((properties first.slot).getD first.value) := by
    rw [h.declaredProperty?, hnearest, Option.map_some]
  rw [Reactor.aliasPath, hnearest] at hpath
  cases n with
  | zero =>
    have hreference : opening <:+: raw.toList := by
      rw [hraw, ← Text.occurs_iff]
      exact Template.hasReference_referenceText name
    exact absurd hreference (hdeep (Nat.zero_le _))
  | succ n =>
    rw [hraw, r'.expand_reference id n hclosing hbuiltin hafter]
    refine h.expand_place hnew hpath hlast fun hn => ?_
    have hdeep := hdeep hn
    rwa [hraw, r.expand_reference id n hclosing hbuiltin hbefore] at hdeep

end

/-! ## Why a change may be lost -/

/-- A module has the version of its parent, which is a module of the reactor: it states no version,
or refers to that of the parent by name. -/
structure Inherits (r : Reactor) (id : Nat) : Prop where
  inside : r.isRoot id = false
  stated : ∀ raw, (r.module id).version = some raw →
    ∃ name, Template.single? raw = some name ∧ ProjectPart.ofName? name = some .parentVersion

/-- A text from which a module takes its version: its own one, or that of its declared parent, if
the version is inherited from a module of the reactor. -/
inductive GivesVersion (r : Reactor) (id : Nat) : String → Prop where
  | own {raw : String} (version : (r.module id).version = some raw) : GivesVersion r id raw
  | parent {parent : Parent} (inherited : Inherits r id)
      (declared : (r.module id).parent = some parent) : GivesVersion r id parent.version

/-- Why a module may not have the new version that is computed for it, without a warning. -/
inductive Unfollowed (changes : VersionChanges) (r : Reactor) (id : Nat) (present new : String) :
    Prop where
  /-- Its own text is a reference to a part of the module, other than to a version that follows with
  the declared parent. -/
  | builtin {raw name : String} {part : ProjectPart} (version : (r.module id).version = some raw)
      (reference : Template.single? raw = some name) (stands : ProjectPart.ofName? name = some part)
      (external : part = .parentVersion →
        r.isRoot id = true ∨ Template.hasReference present = true)
  /-- Its version is inherited, and the declared version of the parent is such a reference. -/
  | builtinParent {parent : Parent} {name : String} (inherited : Inherits r id)
      (declared : (r.module id).parent = some parent)
      (reference : Template.single? parent.version = some name) (builtin : isBuiltin name = true)
  /-- The text refers to a property that the module does not see, but that another one declares. -/
  | hidden {raw name : String} {m : Nat} (text : GivesVersion r id raw)
      (property : propertyOf? raw = some name) (unseen : r.locate? id name = none)
      (declared : (r.module m).ownProperty? name ≠ none)
  /-- A property on the way of the text is claimed for another version. -/
  | contested {raw name : String} {place : PropertyPlace} {y : Carrier}
      (text : GivesVersion r id raw) (property : propertyOf? raw = some name)
      (onPath : place ∈ r.aliasPath id name) (carrier : y ∈ carriers changes r)
      (claims : place.slot ∈ y.slots r) (other : y.edit.new ≠ new)
  /-- Its version is inherited, and that of the parent is not changed alike. -/
  | split {p : Nat} (inherited : Inherits r id) (parent : r.parent? id = some p)
      (version : r.version? p = some present)
      (other : changes.get? ((r.artifact p).at present) ≠ some new)
  /-- The version could not be resolved, and the new one refers to a name that stands for something.
  -/
  | known {name : String} (unresolved : Template.hasReference present = true)
      (reference : name ∈ Template.references new) (known : r.lookup id name ≠ none)

section

variable {changes : VersionChanges} {r : Reactor} {report : Report} {id : Nat}
  {present new : String}

/-- The slots of a property that a module does not see are where others declare it. -/
theorem declared_of_mem_propertySlots {name : String} {slot : PropertySlot}
    (hplace : r.locate? id name = none) (hslot : slot ∈ propertySlots r id name) :
    ∃ m, (r.module m).ownProperty? name ≠ none := by
  rw [propertySlots, hplace] at hslot
  obtain ⟨m, _, hown⟩ := List.mem_filterMap.mp hslot
  obtain ⟨place, hown, _⟩ := Option.map_eq_some_iff.mp hown
  obtain ⟨_, _, hvalue⟩ := r.ownPlace?_eq_some hown
  exact ⟨m, by rw [hvalue]; exact Option.some_ne_none _⟩

/-- A carrier at a module, whose text gives the version of the module and refers to a property: the
text leads to the new version, or there is a warning, or a reason. -/
theorem followed_of_carrier
    (hnew : ∀ n, (changes.apply r report).reactor.expand id n new.toList = new.toList)
    {x : Carrier} (hx : x ∈ carriers changes r) (hmodule : x.edit.module = id)
    {raw name : String} (htext : x.text = some raw)
    (hgives : GivesVersion r id raw) (hname : propertyOf? raw = some name) {n : Nat}
    (hdeep : n ≤ maxDepth → ¬ opening <:+: r.expand id n raw.toList) :
    (changes.apply r report).reactor.expand id n raw.toList = new.toList ∨
      (∃ w ∈ (changes.apply r report).report.warnings, w.module = some (r.artifact id)) ∨
      Unfollowed changes r id present new := by
  have hproperty : x.property? = some name := by
    rw [Carrier.property?, htext]
    exact hname
  have hslots : x.slots r = propertySlots r id name := by
    rw [Carrier.slots, hproperty, hmodule]
  cases hplace : r.locate? id name with
  | none =>
    right
    cases hdeclared : x.slots r with
    | nil =>
      left
      obtain ⟨w, hw, hwarned⟩ := warned_of_undeclared report hx hproperty hdeclared
      rw [warnings_apply]
      exact ⟨w, hw, hmodule ▸ hwarned⟩
    | cons slot later =>
      have hslot : slot ∈ propertySlots r id name := by
        rw [← hslots, hdeclared]
        exact List.mem_cons_self ..
      obtain ⟨m, hm⟩ := declared_of_mem_propertySlots hplace hslot
      exact .inr (.hidden hgives hname hplace hm)
  | some place =>
    by_cases hclear : ∀ p ∈ r.aliasPath id name, ∀ y ∈ carriers changes r, p.slot ∈ y.slots r →
        y.edit.new = new
    · left
      have hpath : ∀ p ∈ r.aliasPath id name,
          ∀ value ∈ (plan changes r report).properties.get? p.slot, value = new := by
        intro p hp value hvalue
        obtain ⟨y, hy, hslot, rfl⟩ := claimed_of_planned hvalue
        exact hclear p hp y hy hslot
      have hend : place ∈ r.aliasPath id name := by
        rw [Reactor.locate?_eq_getLast?] at hplace
        exact List.mem_of_getLast? hplace
      have hclaimed : place.slot ∈ x.slots r := by
        rw [hslots, propertySlots, hplace]
        exact List.mem_singleton.mpr rfl
      obtain ⟨value, hvalue⟩ := planned_of_claimed report hx hclaimed
      have hlast : (plan changes r report).properties.get? place.slot = some new := by
        rw [hvalue, hpath place hend value hvalue]
      exact (apply_written changes r report).expand_property hnew hname hplace hpath hlast hdeep
    · push Not at hclear
      obtain ⟨p, hp, y, hy, hslot, hother⟩ := hclear
      exact .inr (.inr (.contested hgives hname hp hy hslot hother))

/-- All carriers at the version of a module, or of its declared parent, ask for one new version. -/
theorem new_eq_of_site {x y : Carrier} (hx : x ∈ carriers changes r) (hy : y ∈ carriers changes r)
    (hsite : x.edit.site = .own ∨ x.edit.site = .parent) (hmodule : y.edit.module = x.edit.module)
    (hsame : y.edit.site = x.edit.site) : y.edit.new = x.edit.new := by
  have hxfrom := (mem_carriers hx).2
  have hyfrom := (mem_carriers hy).2
  rcases hsite with hsite | hsite
  · rw [Carrier.From, hsame, hsite, hmodule] at hyfrom
    rw [Carrier.From, hsite] at hxfrom
    obtain ⟨present, hpresent, _, _, hchanged⟩ := hxfrom
    obtain ⟨present', hpresent', _, _, hchanged'⟩ := hyfrom
    obtain rfl := Option.some.inj (hpresent.symm.trans hpresent')
    exact Option.some.inj (hchanged'.symm.trans hchanged)
  · rw [Carrier.From, hsame, hsite, hmodule] at hyfrom
    rw [Carrier.From, hsite] at hxfrom
    obtain ⟨parent, hparent, _, hchanged⟩ := hxfrom
    obtain ⟨parent', hparent', _, hchanged'⟩ := hyfrom
    obtain rfl := Option.some.inj (hparent.symm.trans hparent')
    exact Option.some.inj (hchanged'.symm.trans hchanged)

/-- A text of a module that is not a property reference is replaced. -/
theorem newAt?_of_inPlace (report : Report) {x : Carrier} (hx : x ∈ carriers changes r)
    (hplace : x.inPlace = true) (hsite : x.edit.site = .own ∨ x.edit.site = .parent) :
    newAt? (plan changes r report).edits x.edit.module x.edit.site = some x.edit.new :=
  newAt?_of_carrier hx hplace fun _ hy hmodule hsame => new_eq_of_site hx hy hsite hmodule hsame

/-- A text that is a reference is not. -/
theorem newAt?_own_of_reference {raw name : String} (hversion : (r.module id).version = some raw)
    (hreference : Template.single? raw = some name) :
    newAt? (plan changes r report).edits id .own = none := by
  by_contra hsome
  obtain ⟨new, hnew⟩ := Option.ne_none_iff_exists'.mp hsome
  obtain ⟨x, hx, hplace, hedit⟩ := carrier_of_newAt? hnew
  have hfrom := (mem_carriers hx).2
  simp only [Carrier.From, hedit] at hfrom
  obtain ⟨_, _, htext, _⟩ := hfrom
  rw [Carrier.inPlace, htext, hversion, Option.bind_some, hreference] at hplace
  cases hplace

theorem newAt?_parent_of_reference (changes : VersionChanges) (report : Report) {parent : Parent}
    {name : String} (hparent : (r.module id).parent = some parent)
    (hreference : Template.single? parent.version = some name) :
    newAt? (plan changes r report).edits id .parent = none := by
  by_contra hsome
  obtain ⟨new, hnew⟩ := Option.ne_none_iff_exists'.mp hsome
  obtain ⟨x, hx, hplace, hedit⟩ := carrier_of_newAt? hnew
  have hfrom := (mem_carriers hx).2
  simp only [Carrier.From, hedit] at hfrom
  obtain ⟨parent', hparent', htext, _⟩ := hfrom
  obtain rfl := Option.some.inj (hparent.symm.trans hparent')
  rw [Carrier.inPlace, htext, Option.bind_some, hreference] at hplace
  cases hplace

/-- A version that is inherited from a module of the reactor is not written into the module. -/
theorem newAt?_own_of_inherited (hversion : (r.module id).version = none)
    (hinside : r.isRoot id = false) : newAt? (plan changes r report).edits id .own = none := by
  by_contra hsome
  obtain ⟨new, hnew⟩ := Option.ne_none_iff_exists'.mp hsome
  obtain ⟨x, hx, _, hedit⟩ := carrier_of_newAt? hnew
  have hfrom := (mem_carriers hx).2
  simp only [Carrier.From, hedit] at hfrom
  obtain ⟨_, _, htext, hroot, _⟩ := hfrom
  rw [hroot (htext.trans hversion)] at hinside
  cases hinside

/-- The declared version of the parent of a module, if the parent is changed to the new version. -/
theorem followed_parent (report : Report) {p : Nat} {parent : Parent} (hid : id < r.size)
    (hnew : ∀ n, (changes.apply r report).reactor.expand id n new.toList = new.toList)
    (hinherits : Inherits r id) (hparent : r.parent? id = some p)
    (hdeclared : (r.module id).parent = some parent) (hartifact : parent.artifact = r.artifact p)
    (hversion : r.version? p = some (r.resolve id parent.version))
    (hpresent : r.resolve id parent.version = present) {n : Nat}
    (hdeep : n ≤ maxDepth → ¬ opening <:+: r.expand id n parent.version.toList) :
    (∃ parent', ((changes.apply r report).reactor.module id).parent = some parent' ∧
        (changes.apply r report).reactor.expand id n parent'.version.toList = new.toList) ∨
      (∃ w ∈ (changes.apply r report).report.warnings, w.module = some (r.artifact id)) ∨
      Unfollowed changes r id present new := by
  by_cases hchanged : changes.get? ((r.artifact p).at present) = some new
  · have hwritten := (apply_written changes r report).parent id
    rw [hdeclared, Option.map_some] at hwritten
    rw [← hpresent, ← hartifact] at hchanged
    have hedit : parentEdit? changes r id =
        some (parent.version, { module := id, site := .parent, new }) := by
      rw [parentEdit?, hdeclared]
      simp [hchanged]
    have hx := mem_carriers_of_parentEdit? hid hedit
    cases hreference : Template.single? parent.version with
    | none =>
      have hplace :
          (Carrier.ofText (parent.version, { module := id, site := .parent, new })).inPlace =
            true := by
        rw [Carrier.inPlace, Carrier.ofText, Option.bind_some, hreference]
        rfl
      have hset := newAt?_of_inPlace report hx hplace (.inr rfl)
      simp only [Carrier.ofText] at hset
      rw [hset] at hwritten
      exact .inl ⟨_, hwritten, hnew n⟩
    | some name =>
      have hkept := newAt?_parent_of_reference changes report hdeclared hreference
      rw [hkept] at hwritten
      cases hbuiltin : isBuiltin name with
      | true => exact .inr (.inr (.builtinParent hinherits hdeclared hreference hbuiltin))
      | false =>
        have hname : propertyOf? parent.version = some name := by
          rw [propertyOf?, hreference, Option.filter_some_pos (by simp [hbuiltin])]
        rcases followed_of_carrier hnew hx rfl rfl (.parent hinherits hdeclared) hname hdeep with
          hexpand | hlost
        · exact .inl ⟨_, hwritten, hexpand⟩
        · exact .inr hlost
  · exact .inr (.inr (.split hinherits hparent (hversion.trans (congrArg some hpresent)) hchanged))

theorem isSome_parent? (hinside : r.isRoot id = false) : ∃ p, r.parent? id = some p := by
  rw [Reactor.isRoot, Option.isNone_eq_false_iff] at hinside
  exact Option.isSome_iff_exists.mp hinside

theorem resolve_apply {raw : String}
    (h : (changes.apply r report).reactor.expand id (maxDepth + 1) raw.toList = new.toList) :
    (changes.apply r report).reactor.resolve id raw = new := by
  rw [Reactor.resolve, h, String.ofList_toList]

theorem mem_carriers_own (hid : id < r.size) (hpresent : r.version? id = some present)
    (hchanged : changes.get? ((r.artifact id).at present) = some new) {text : Option String}
    (htext : (r.module id).version = text) (hroot : text = none → r.isRoot id = true) :
    { text, edit := { module := id, site := .own, new } } ∈ carriers changes r := by
  refine mem_carriers_of_ownCarrier? hid ?_
  rw [ownCarrier?, hpresent, Option.bind_some, hchanged, Option.bind_some]
  cases text with
  | none => simp [htext, hroot rfl]
  | some raw => simp [htext]

/-- A version that is inherited from a module of the reactor follows with the declared parent. -/
theorem followed_inherited (hparents : r.DeclaresParents) (hid : id < r.size)
    (hnew : ∀ n, (changes.apply r report).reactor.expand id n new.toList = new.toList)
    (hpresent : r.version? id = some present) (hversion : (r.module id).version = none)
    (hinside : r.isRoot id = false) :
    (changes.apply r report).reactor.version? id = some new ∨
      (∃ w ∈ (changes.apply r report).report.warnings, w.module = some (r.artifact id)) ∨
      Unfollowed changes r id present new := by
  obtain ⟨p, hparent⟩ := isSome_parent? hinside
  obtain ⟨parent, hdeclared, hartifact, hsame⟩ := hparents id hid p hparent
  have hinherited : r.resolve id parent.version = present := by
    rw [Reactor.version?, Module.writtenVersion, hversion, hdeclared] at hpresent
    exact Option.some.inj hpresent
  have hinherits : Inherits r id := by
    refine ⟨hinside, fun raw hraw => ?_⟩
    cases hversion.symm.trans hraw
  rcases followed_parent (n := maxDepth + 1) report hid hnew hinherits hparent hdeclared
    hartifact hsame hinherited (fun hn => absurd hn (Nat.not_succ_le_self _)) with
    ⟨parent', hparent', hexpand⟩ | hlost
  · left
    have hafter := (apply_written changes r report).version id
    rw [newAt?_own_of_inherited hversion hinside, hversion] at hafter
    rw [Reactor.version?, Module.writtenVersion, hafter, hparent']
    exact congrArg some (resolve_apply hexpand)
  · exact .inr hlost

/-- So does a version that is a reference to the version of the declared parent. -/
theorem followed_parentVersion (hparents : r.DeclaresParents) (hid : id < r.size)
    (hnew : ∀ n, (changes.apply r report).reactor.expand id n new.toList = new.toList)
    (hpresent : r.version? id = some present) {raw name : String}
    (hversion : (r.module id).version = some raw) (hreference : Template.single? raw = some name)
    (hpart : ProjectPart.ofName? name = some .parentVersion) (hinside : r.isRoot id = false)
    (hconcrete : Template.hasReference present = false) :
    (changes.apply r report).reactor.version? id = some new ∨
      (∃ w ∈ (changes.apply r report).report.warnings, w.module = some (r.artifact id)) ∨
      Unfollowed changes r id present new := by
  obtain ⟨hraw, hclosing⟩ := Template.single?_eq_some hreference
  obtain ⟨p, hparent⟩ := isSome_parent? hinside
  obtain ⟨parent, hdeclared, hartifact, hsame⟩ := hparents id hid p hparent
  have hlookup : r.lookup id name = some parent.version := by
    simp only [Reactor.lookup, hpart, ProjectPart.of, hdeclared, Option.map_some]
  have hexpanded : r.expand id maxDepth parent.version.toList = present.toList := by
    rw [Reactor.version?, Module.writtenVersion, hversion] at hpresent
    have hresolve : r.resolve id raw = present := Option.some.inj hpresent
    rw [← hresolve, Reactor.resolve, hraw, r.expand_referenceText id maxDepth hclosing hlookup,
      String.toList_ofList]
  have hdeep : ¬ opening <:+: r.expand id maxDepth parent.version.toList := by
    rw [hexpanded]
    exact Template.hasReference_eq_false_iff.mp hconcrete
  have hinherited : r.resolve id parent.version = present := by
    rw [Reactor.resolve, (nestedUpTo_of_expand hdeep).expand (Nat.le_succ _), hexpanded,
      String.ofList_toList]
  have hinherits : Inherits r id := by
    refine ⟨hinside, fun raw' hraw' => ⟨name, ?_, hpart⟩⟩
    rwa [← Option.some.inj (hversion.symm.trans hraw')]
  rcases followed_parent report hid hnew hinherits hparent hdeclared hartifact hsame
    hinherited (fun _ => hdeep) with ⟨parent', hparent', hexpand⟩ | hlost
  · left
    have hafter := (apply_written changes r report).version id
    rw [newAt?_own_of_reference hversion hreference, hversion] at hafter
    have hlookup' : (changes.apply r report).reactor.lookup id name = some parent'.version := by
      simp only [Reactor.lookup, hpart, ProjectPart.of, hparent', Option.map_some]
    rw [Reactor.version?, Module.writtenVersion, hafter]
    refine congrArg some (resolve_apply ?_)
    rw [hraw, Reactor.expand_referenceText _ id maxDepth hclosing hlookup', hexpand]
  · exact .inr hlost

/-- A module has its new version, or there is a warning for the module, or one of the reasons. -/
theorem followed_or_warned (hparents : r.DeclaresParents) (hid : id < r.size)
    (hpresent : r.version? id = some present)
    (hchanged : changes.get? ((r.artifact id).at present) = some new)
    (hknown : ∀ name ∈ Template.references new, r.lookup id name = none) :
    (changes.apply r report).reactor.version? id = some new ∨
      (∃ w ∈ (changes.apply r report).report.warnings, w.module = some (r.artifact id)) ∨
      Unfollowed changes r id present new := by
  have hnew : ∀ n, (changes.apply r report).reactor.expand id n new.toList = new.toList := by
    refine Reactor.expand_of_unknown _ id fun name hname => ?_
    exact lookup_apply_eq_none (hknown name hname)
  have hwritten := (apply_written changes r report).version id
  have hinPlace : ∀ x ∈ carriers changes r, x.inPlace = true →
      x.edit = { module := id, site := .own, new } →
      (changes.apply r report).reactor.version? id = some new := by
    intro x hx hplace hedit
    have hset := newAt?_of_inPlace report hx hplace (.inl (by rw [hedit]))
    rw [hedit] at hset
    rw [hset] at hwritten
    rw [Reactor.version?, Module.writtenVersion, hwritten]
    exact congrArg some (resolve_apply (hnew _))
  cases hversion : (r.module id).version with
  | none =>
    cases hroot : r.isRoot id with
    | true =>
      have hx := mem_carriers_own hid hpresent hchanged hversion fun _ => hroot
      exact .inl (hinPlace _ hx rfl rfl)
    | false => exact followed_inherited hparents hid hnew hpresent hversion hroot
  | some raw =>
    have hx := mem_carriers_own hid hpresent hchanged hversion fun hnone => by cases hnone
    cases hreference : Template.single? raw with
    | none => exact .inl (hinPlace _ hx (by simp [Carrier.inPlace, hreference]) rfl)
    | some name =>
      cases hpart : ProjectPart.ofName? name with
      | none =>
        have hname : propertyOf? raw = some name := by
          rw [propertyOf?, hreference, Option.filter_some_pos (by simp [isBuiltin, hpart])]
        rcases followed_of_carrier hnew hx rfl rfl (.own hversion) hname
          (fun hn => absurd hn (Nat.not_succ_le_self maxDepth)) with hexpand | hlost
        · left
          rw [newAt?_own_of_reference hversion hreference, hversion] at hwritten
          rw [Reactor.version?, Module.writtenVersion, hwritten]
          exact congrArg some (resolve_apply hexpand)
        · exact .inr hlost
      | some part =>
        by_cases hfollows : part = .parentVersion ∧ r.isRoot id = false ∧
            Template.hasReference present = false
        · obtain ⟨rfl, hinside, hconcrete⟩ := hfollows
          exact followed_parentVersion hparents hid hnew hpresent hversion hreference hpart hinside
            hconcrete
        · refine .inr (.inr (.builtin hversion hreference hpart fun hparentVersion => ?_))
          by_contra hneither
          rw [not_or, Bool.not_eq_true, Bool.not_eq_true] at hneither
          exact hfollows ⟨hparentVersion, hneither⟩

end

/-- After re-versioning a module has the new version that is computed for it, or there is a warning
for the module, or its version stands where the stage does not reach it or another one overrules it.
-/
theorem reversioned_or_warned {r : Reactor} {policy : VersionPolicy} (osgi : Bool)
    (candidates : Candidates) (report : Report) (hpolicy : policy.Concrete)
    (hparents : r.DeclaresParents) {id : Nat} (hid : id < r.size) {present new : String}
    (hpresent : r.version? id = some present)
    (hchanged : (ofPolicy r policy osgi candidates).get? ((r.artifact id).at present) = some new) :
    ((ofPolicy r policy osgi candidates).apply r report).reactor.version? id = some new ∨
      (∃ w ∈ ((ofPolicy r policy osgi candidates).apply r report).report.warnings,
        w.module = some (r.artifact id)) ∨
      Unfollowed (ofPolicy r policy osgi candidates) r id present new := by
  by_cases hknown : ∀ name ∈ Template.references new, r.lookup id name = none
  · exact followed_or_warned hparents hid hpresent hchanged hknown
  · push Not at hknown
    obtain ⟨name, hreference, hknown⟩ := hknown
    have hnew : Template.hasReference new = true := by
      by_contra hnone
      rw [Template.references_of_not_hasReference (Bool.eq_false_iff.mpr hnone)] at hreference
      exact absurd hreference List.not_mem_nil
    obtain ⟨_, hunresolved⟩ := unresolved_of_ofPolicy hpolicy hchanged hnew
    exact .inr (.inr (.known hunresolved hreference hknown))

theorem declaresParents_revisionAndBase : (revisionAndBase true).DeclaresParents := by
  intro id hid p hparent
  have hlt : id < 2 := hid
  obtain rfl | rfl : id = 0 ∨ id = 1 := by omega
  · obtain rfl : 1 = p := Option.some.inj hparent
    exact ⟨{ group := "org.app", name := "base", version := "2.0" }, rfl, by decide +kernel,
      by decide +kernel⟩
  · exact absurd hparent nofun

theorem reversioned_or_warned_inSight :
    (suffixed true).reactor.version? 0 = some "1.0.redhat-1" ∨
      (∃ w ∈ (suffixed true).report.warnings,
        w.module = some ((revisionAndBase true).artifact 0)) ∨
      Unfollowed (ofPolicy (revisionAndBase true) redhatPolicy false ∅) (revisionAndBase true) 0
        "1.0" "1.0.redhat-1" :=
  reversioned_or_warned false ∅ {} concrete_redhatPolicy declaresParents_revisionAndBase
    (by decide) (by decide +kernel) (by decide +kernel)

def toolOfCorp : Reactor where
  modules := [
    { group := some "org.app", name := "tool", version := some "$\x7bproject.parent.version\x7d"
      parent := some { group := "org.corp", name := "corp-parent", version := "10" } }]
  forest := Reactor.forest_of_checks (by simp) (by decide) (by decide)

/-- The change of such a module is computed and dropped without a trace. -/
theorem reversioning_loses_change :
    toolOfCorp.DeclaresParents ∧ redhatPolicy.Concrete ∧
      toolOfCorp.version? 0 = some "10" ∧
      (ofPolicy toolOfCorp redhatPolicy false ∅).get?
        ((toolOfCorp.artifact 0).at "10") = some "10.redhat-1" ∧
      ((ofPolicy toolOfCorp redhatPolicy false ∅).apply
        toolOfCorp {}).reactor.version? 0 = some "10" ∧
      ((ofPolicy toolOfCorp redhatPolicy false ∅).apply toolOfCorp {}).report.warnings =
        [] := by
  refine ⟨?_, concrete_redhatPolicy, by decide +kernel, by decide +kernel, by decide +kernel,
    by decide +kernel⟩
  intro id hid p hparent
  have hlt : id < 1 := hid
  obtain rfl : id = 0 := by omega
  exact absurd hparent nofun

end VersionChanges

end BuildAlign
