import BuildAlign.Proofs.Reactor.AliasPath
import BuildAlign.Proofs.Reactor.Order
import BuildAlign.Proofs.Table
import BuildAlign.Versioning.Apply

/-!
The texts that carry changed coordinates. Every such text asks for one edit: of its own place, or,
where it is a reference to a property, of the places that declare the property. The plan holds the
edits in place in order, and for every property what was asked for last.
-/

namespace BuildAlign

/-- The image of the last element that passes a test. -/
def lastFor {α β : Type} (p : α → Bool) (f : α → β) (xs : List α) : Option β :=
  ((xs.filter p).getLast?).map f

section

variable {α β : Type} {p : α → Bool} {f : α → β} {xs : List α}

theorem lastFor_concat (x : α) :
    lastFor p f (xs ++ [x]) = if p x then some (f x) else lastFor p f xs := by
  rw [lastFor, List.filter_append, List.filter_singleton]
  cases p x with
  | true => simp
  | false => simp [lastFor]

theorem exists_of_lastFor {b : β} (h : lastFor p f xs = some b) :
    ∃ x ∈ xs, p x = true ∧ f x = b := by
  obtain ⟨x, hx, rfl⟩ := Option.map_eq_some_iff.mp h
  obtain ⟨hmem, hp⟩ := List.mem_filter.mp (List.mem_of_getLast? hx)
  exact ⟨x, hmem, hp, rfl⟩

theorem lastFor_ne_none {x : α} (hx : x ∈ xs) (hp : p x = true) : lastFor p f xs ≠ none := by
  have hmem : x ∈ xs.filter p := List.mem_filter.mpr ⟨hx, hp⟩
  rw [lastFor, ne_eq, Option.map_eq_none_iff, List.getLast?_eq_none_iff]
  exact List.ne_nil_of_mem hmem

/-- If all elements that pass the test have the same image, it is the last one's. -/
theorem lastFor_eq_some {x : α} (hx : x ∈ xs) (hp : p x = true)
    (hall : ∀ y ∈ xs, p y = true → f y = f x) : lastFor p f xs = some (f x) := by
  obtain ⟨b, hb⟩ := Option.ne_none_iff_exists'.mp (lastFor_ne_none (f := f) hx hp)
  obtain ⟨y, hy, hpy, rfl⟩ := exists_of_lastFor hb
  rw [hb, hall y hy hpy]

end

namespace VersionChanges

/-- A text that carries a changed coordinate, and the edit of its place. There is no text where a
root gets a version that it only inherits. -/
structure Carrier where
  text : Option String
  edit : Edit

namespace Carrier

def ofText (e : String × Edit) : Carrier :=
  { text := some e.1, edit := e.2 }

def property? (x : Carrier) : Option String :=
  x.text.bind propertyOf?

/-- The declarations that have to follow instead of the text. -/
def slots (r : Reactor) (x : Carrier) : List PropertySlot :=
  match x.property? with
  | none => []
  | some name => propertySlots r x.edit.module name

/-- Whether the place itself is edited, as its text is not a reference. -/
def inPlace (x : Carrier) : Bool :=
  (x.text.bind Template.single?).isNone

end Carrier

/-- The version of a module as a carrier, if the coordinate of the module is changed. -/
def ownCarrier? (changes : VersionChanges) (r : Reactor) (id : Nat) : Option Carrier :=
  ((r.version? id).bind fun old => changes.get? ((r.artifact id).at old)).bind fun new =>
    let edit : Edit := { module := id, site := .own, new }
    match (r.module id).version with
    | some raw => some { text := some raw, edit }
    | none => if r.isRoot id then some { text := none, edit } else none

def carriersIn (changes : VersionChanges) (r : Reactor) (id : Nat) : List Carrier :=
  (parentEdit? changes r id).toList.map .ofText ++ (ownCarrier? changes r id).toList
    ++ ((r.module id).dependencyDeclarations.filterMap (entryEdit? changes r id)).map .ofText

def carriers (changes : VersionChanges) (r : Reactor) : List Carrier :=
  r.order.flatMap (carriersIn changes r)

def plan (changes : VersionChanges) (r : Reactor) (report : Report) : Plan :=
  r.order.foldl (Plan.visit changes r) { report }

def Plan.add (r : Reactor) (plan : Plan) (x : Carrier) : Plan :=
  match x.text with
  | none => { plan with edits := plan.edits ++ [x.edit] }
  | some raw => plan.push r raw x.edit

/-! ## The plan as a fold over the carriers -/

section

variable (changes : VersionChanges) (r : Reactor)

theorem pushOwn_eq (plan : Plan) (id : Nat) :
    plan.pushOwn changes r id = (ownCarrier? changes r id).toList.foldl (Plan.add r) plan := by
  rw [Plan.pushOwn, ownCarrier?]
  cases (r.version? id).bind fun old => changes.get? ((r.artifact id).at old) with
  | none => rfl
  | some new =>
    dsimp only [Option.bind_some]
    cases (r.module id).version with
    | some raw => rfl
    | none =>
      dsimp only
      split <;> rfl

theorem visit_eq (plan : Plan) (id : Nat) :
    plan.visit changes r id = (carriersIn changes r id).foldl (Plan.add r) plan := by
  have hpushAll : ∀ (edits : List (String × Edit)) (plan : Plan),
      edits.foldl (fun plan e => plan.push r e.1 e.2) plan =
        (edits.map Carrier.ofText).foldl (Plan.add r) plan := by
    intro edits plan
    rw [List.foldl_map]
    rfl
  simp only [Plan.visit]
  rw [carriersIn, List.foldl_append, List.foldl_append, ← pushOwn_eq, ← hpushAll, ← hpushAll]

/-- Planning goes over the carriers one by one, so what is planned is proved by induction on their
list. -/
theorem plan_eq (report : Report) :
    plan changes r report = (carriers changes r).foldl (Plan.add r) { report } := by
  have hvisit : Plan.visit changes r = fun plan id =>
      (carriersIn changes r id).foldl (Plan.add r) plan :=
    funext fun plan => funext (visit_eq changes r plan)
  rw [plan, carriers, List.foldl_flatMap, hvisit]

end

/-! ## One carrier -/

section

variable (r : Reactor) (plan : Plan) (x : Carrier)

/-- A carrier whose text is no reference is edited in place. -/
theorem edits_add :
    (plan.add r x).edits = plan.edits ++ if x.inPlace then [x.edit] else [] := by
  rw [Plan.add]
  cases htext : x.text with
  | none => simp [Carrier.inPlace, htext]
  | some raw =>
    dsimp only
    rw [Plan.push]
    cases hsingle : Template.single? raw with
    | none => simp [Carrier.inPlace, htext, hsingle]
    | some name =>
      have hnot : x.inPlace = false := by simp [Carrier.inPlace, htext, hsingle]
      rw [hnot]
      dsimp only
      split
      · simp
      · split <;> simp

/-- A carrier whose text is one reference plans its version for the declarations of the property. A
later one overwrites what an earlier one planned. -/
theorem properties_add :
    (plan.add r x).properties =
      (x.slots r).foldl (fun t slot => t.insert slot x.edit.new) plan.properties := by
  rw [Plan.add, Carrier.slots, Carrier.property?]
  cases x.text with
  | none => rfl
  | some raw =>
    dsimp only [Option.bind_some]
    rw [Plan.push, propertyOf?]
    cases Template.single? raw with
    | none => rfl
    | some name =>
      dsimp only
      cases hbuiltin : isBuiltin name with
      | true =>
        rw [Option.filter_some_neg (by simp [hbuiltin])]
        rfl
      | false =>
        rw [Option.filter_some_pos (by simp [hbuiltin])]
        dsimp only
        cases propertySlots r x.edit.module name <;> simp

theorem warnings_add :
    plan.report.warnings <+: (plan.add r x).report.warnings := by
  rw [Plan.add]
  split
  · exact List.prefix_refl _
  · rw [Plan.push]
    split
    · exact List.prefix_refl _
    · split
      · exact List.prefix_refl _
      · split
        · exact List.prefix_append _ _
        · exact List.prefix_refl _

/-- A property that no module declares is warned of. -/
theorem warned_add {name : String} (hname : x.property? = some name) (hslots : x.slots r = []) :
    ∃ w ∈ (plan.add r x).report.warnings, w.module = some (r.artifact x.edit.module) := by
  have hnone : propertySlots r x.edit.module name = [] := by
    rwa [Carrier.slots, hname] at hslots
  obtain ⟨raw, htext, hproperty⟩ := Option.bind_eq_some_iff.mp hname
  obtain ⟨hsingle, hbuiltin⟩ := Option.filter_eq_some_iff.mp hproperty
  rw [Plan.add, htext]
  dsimp only
  rw [Plan.push, hsingle]
  dsimp only
  rw [if_neg (by simpa using hbuiltin), hnone]
  exact ⟨_, List.mem_append_right _ (List.mem_singleton.mpr rfl), rfl⟩

end

/-! ## All carriers -/

section

variable (r : Reactor)

theorem edits_foldl_add (xs : List Carrier) (plan : Plan) :
    (xs.foldl (Plan.add r) plan).edits =
      plan.edits ++ (xs.filter Carrier.inPlace).map Carrier.edit := by
  induction xs generalizing plan with
  | nil => simp
  | cons x later ih =>
    rw [List.foldl_cons, ih, edits_add, List.append_assoc, List.filter_cons]
    split <;> simp

theorem get?_foldl_insert (slots : List PropertySlot) (t : Table PropertySlot String)
    (new : String) (slot : PropertySlot) :
    (slots.foldl (fun t slot => t.insert slot new) t).get? slot =
      if slot ∈ slots then some new else t.get? slot := by
  induction slots generalizing t with
  | nil => simp
  | cons first later ih =>
    rw [List.foldl_cons, ih, Table.get?_insert]
    grind

theorem get?_properties_foldl_add (xs : List Carrier) (report : Report) (slot : PropertySlot) :
    (xs.foldl (Plan.add r) { report }).properties.get? slot =
      lastFor (fun x => slot ∈ x.slots r) (fun x => x.edit.new) xs := by
  induction xs using List.reverseRecOn with
  | nil => rfl
  | append_singleton front x ih =>
    rw [List.foldl_append, List.foldl_cons, List.foldl_nil, properties_add, get?_foldl_insert, ih,
      lastFor_concat]
    simp

theorem warnings_foldl_add (xs : List Carrier) (plan : Plan) :
    plan.report.warnings <+: (xs.foldl (Plan.add r) plan).report.warnings := by
  induction xs generalizing plan with
  | nil => exact List.prefix_refl _
  | cons x later ih => exact (warnings_add r plan x).trans (ih _)

end

variable {changes : VersionChanges} {r : Reactor}

theorem edits_plan (report : Report) :
    (plan changes r report).edits =
      ((carriers changes r).filter Carrier.inPlace).map Carrier.edit := by
  rw [plan_eq, edits_foldl_add]
  rfl

theorem get?_properties_plan (report : Report) (slot : PropertySlot) :
    (plan changes r report).properties.get? slot =
      lastFor (fun x => slot ∈ x.slots r) (fun x => x.edit.new) (carriers changes r) := by
  rw [plan_eq, get?_properties_foldl_add]

/-- What is planned for a slot comes from a carrier that claims it. -/
theorem claimed_of_planned {report : Report} {slot : PropertySlot} {value : String}
    (h : (plan changes r report).properties.get? slot = some value) :
    ∃ y ∈ carriers changes r, slot ∈ y.slots r ∧ y.edit.new = value := by
  rw [get?_properties_plan] at h
  obtain ⟨y, hy, hslot, hvalue⟩ := exists_of_lastFor h
  exact ⟨y, hy, of_decide_eq_true hslot, hvalue⟩

/-- For a slot that a carrier claims, something is planned. -/
theorem planned_of_claimed (report : Report) {x : Carrier} (hx : x ∈ carriers changes r)
    {slot : PropertySlot} (hslot : slot ∈ x.slots r) :
    ∃ value, (plan changes r report).properties.get? slot = some value := by
  have hplanned := lastFor_ne_none (p := fun x => slot ∈ Carrier.slots r x)
    (f := fun x => x.edit.new) hx (decide_eq_true hslot)
  obtain ⟨value, hvalue⟩ := Option.ne_none_iff_exists'.mp hplanned
  exact ⟨value, (get?_properties_plan report slot).trans hvalue⟩

theorem warned_of_undeclared (report : Report) {x : Carrier} {name : String}
    (hx : x ∈ carriers changes r) (hname : x.property? = some name) (hslots : x.slots r = []) :
    ∃ w ∈ (plan changes r report).report.warnings, w.module = some (r.artifact x.edit.module) := by
  obtain ⟨front, later, hsplit⟩ := List.append_of_mem hx
  rw [plan_eq, hsplit, List.foldl_append, List.foldl_cons]
  obtain ⟨w, hw, hmodule⟩ := warned_add r (front.foldl (Plan.add r) { report }) x hname hslots
  exact ⟨w, (warnings_foldl_add r later _).subset hw, hmodule⟩

/-! ## Where carriers come from -/

theorem parentEdit?_eq_some {id : Nat} {e : String × Edit} (h : parentEdit? changes r id = some e) :
    ∃ parent new, (r.module id).parent = some parent ∧
      changes.get? (parent.artifact.at (r.resolve id parent.version)) = some new ∧
      e = (parent.version, { module := id, site := .parent, new }) := by
  obtain ⟨parent, hparent, hnew⟩ := Option.bind_eq_some_iff.mp h
  obtain ⟨new, hchanged, he⟩ := Option.bind_eq_some_iff.mp hnew
  exact ⟨parent, new, hparent, hchanged, (Option.some.inj he).symm⟩

theorem entryEdit?_eq_some {id : Nat} {d : Declaration} {e : String × Edit}
    (h : entryEdit? changes r id d = some e) :
    ∃ raw new, d.version = some raw ∧
      changes.get? ((r.declaredArtifact id d).at (r.resolve id raw)) = some new ∧
      e = (raw, { module := id, site := .entry d.address (r.declaredArtifact id d), new }) := by
  obtain ⟨raw, hversion, hnew⟩ := Option.bind_eq_some_iff.mp h
  obtain ⟨new, hchanged, he⟩ := Option.bind_eq_some_iff.mp hnew
  exact ⟨raw, new, hversion, hchanged, (Option.some.inj he).symm⟩

theorem ownCarrier?_eq_some {id : Nat} {x : Carrier} (h : ownCarrier? changes r id = some x) :
    ∃ present new, r.version? id = some present ∧
      changes.get? ((r.artifact id).at present) = some new ∧
      x = { text := (r.module id).version, edit := { module := id, site := .own, new } } ∧
      ((r.module id).version = none → r.isRoot id = true) := by
  obtain ⟨new, hchange, hx⟩ := Option.bind_eq_some_iff.mp h
  obtain ⟨present, hpresent, hnew⟩ := Option.bind_eq_some_iff.mp hchange
  refine ⟨present, new, hpresent, hnew, ?_⟩
  cases hversion : (r.module id).version with
  | some raw =>
    rw [hversion] at hx
    exact ⟨(Option.some.inj hx).symm, nofun⟩
  | none =>
    rw [hversion] at hx
    dsimp only at hx
    split at hx
    · rename_i hroot
      exact ⟨(Option.some.inj hx).symm, fun _ => hroot⟩
    · exact absurd hx nofun

/-- What a carrier is, by the site of its edit. -/
def Carrier.From (changes : VersionChanges) (r : Reactor) (x : Carrier) : Prop :=
  match x.edit.site with
  | .parent => ∃ parent, (r.module x.edit.module).parent = some parent ∧
      x.text = some parent.version ∧
      changes.get? (parent.artifact.at (r.resolve x.edit.module parent.version)) = some x.edit.new
  | .own => ∃ present, r.version? x.edit.module = some present ∧
      x.text = (r.module x.edit.module).version ∧
      (x.text = none → r.isRoot x.edit.module = true) ∧
      changes.get? ((r.artifact x.edit.module).at present) = some x.edit.new
  | .entry _ _ => ∃ d ∈ (r.module x.edit.module).dependencyDeclarations, ∃ raw,
      d.version = some raw ∧ x.text = some raw ∧
      changes.get? ((r.declaredArtifact x.edit.module d).at (r.resolve x.edit.module raw)) =
        some x.edit.new

/-- Every carrier is found in a module of the reactor, and is one of the three kinds. -/
theorem mem_carriers {x : Carrier} (hx : x ∈ carriers changes r) :
    x.edit.module < r.size ∧ x.From changes r := by
  obtain ⟨id, hid, hx⟩ := List.mem_flatMap.mp hx
  have hinside := Reactor.lt_of_mem_order hid
  rw [carriersIn, List.mem_append, List.mem_append] at hx
  rcases hx with (hx | hx) | hx
  · obtain ⟨e, he, rfl⟩ := List.mem_map.mp hx
    obtain ⟨parent, new, hparent, hchanged, rfl⟩ := parentEdit?_eq_some (Option.mem_toList.mp he)
    exact ⟨hinside, parent, hparent, rfl, hchanged⟩
  · obtain ⟨present, new, hpresent, hchanged, rfl, hroot⟩ :=
      ownCarrier?_eq_some (Option.mem_toList.mp hx)
    exact ⟨hinside, present, hpresent, rfl, hroot, hchanged⟩
  · obtain ⟨e, he, rfl⟩ := List.mem_map.mp hx
    obtain ⟨d, hd, hedit⟩ := List.mem_filterMap.mp he
    obtain ⟨raw, new, hversion, hchanged, rfl⟩ := entryEdit?_eq_some hedit
    exact ⟨hinside, d, hd, raw, hversion, rfl, hchanged⟩

/-- A carrier carries a changed coordinate, and asks for its new version. -/
theorem exists_coordinate {x : Carrier} (hx : x ∈ carriers changes r) :
    ∃ coordinate, changes.get? coordinate = some x.edit.new := by
  obtain ⟨_, hfrom⟩ := mem_carriers hx
  rw [Carrier.From] at hfrom
  split at hfrom
  · obtain ⟨_, _, _, hchanged⟩ := hfrom
    exact ⟨_, hchanged⟩
  · obtain ⟨_, _, _, _, hchanged⟩ := hfrom
    exact ⟨_, hchanged⟩
  · obtain ⟨_, _, _, _, _, hchanged⟩ := hfrom
    exact ⟨_, hchanged⟩

theorem mem_carriers_of_parentEdit? {id : Nat} (hid : id < r.size) {e : String × Edit}
    (h : parentEdit? changes r id = some e) : .ofText e ∈ carriers changes r := by
  refine List.mem_flatMap.mpr ⟨id, r.mem_order hid, ?_⟩
  rw [carriersIn, List.mem_append, List.mem_append]
  exact .inl (.inl (List.mem_map_of_mem (Option.mem_toList.mpr h)))

theorem mem_carriers_of_ownCarrier? {id : Nat} (hid : id < r.size) {x : Carrier}
    (h : ownCarrier? changes r id = some x) : x ∈ carriers changes r := by
  refine List.mem_flatMap.mpr ⟨id, r.mem_order hid, ?_⟩
  rw [carriersIn, List.mem_append, List.mem_append]
  exact .inl (.inr (Option.mem_toList.mpr h))

/-- A property is planned only where a module declares it. -/
theorem ownProperty?_of_mem_slots {x : Carrier} {slot : PropertySlot} (hslot : slot ∈ x.slots r) :
    ∃ old, (r.module slot.module).ownProperty? slot.name = some (slot.scope, old) := by
  rw [Carrier.slots] at hslot
  split at hslot
  · exact absurd hslot List.not_mem_nil
  · rename_i name hname
    rw [propertySlots] at hslot
    split at hslot
    · rename_i place hlocated
      obtain rfl := List.mem_singleton.mp hslot
      obtain ⟨_, _, hown⟩ := Reactor.nearestPlace?_self (Reactor.nearestPlace?_of_locate? hlocated)
      exact ⟨place.value, hown⟩
    · obtain ⟨m, _, hplace⟩ := List.mem_filterMap.mp hslot
      obtain ⟨place, hown, rfl⟩ := Option.map_eq_some_iff.mp hplace
      obtain ⟨rfl, rfl, hown⟩ := r.ownPlace?_eq_some hown
      exact ⟨place.value, hown⟩

end VersionChanges

end BuildAlign
