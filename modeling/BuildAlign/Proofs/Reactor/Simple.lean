import BuildAlign.Proofs.Reactor.NamesRead
import BuildAlign.Proofs.Table

/-!
Reactors in which every version and every property value is simple: a text without references, or
exactly one reference to a property. There a text is resolved to the value of the place that its
name leads to, past all aliases, whether they end, run in a circle or are too many to follow.
-/

namespace BuildAlign

/-- A text without references, or one reference to a property. -/
def IsSimple (raw : String) : Prop :=
  Template.hasReference raw = false ∨ (propertyOf? raw).isSome = true

instance (raw : String) : Decidable (IsSimple raw) :=
  inferInstanceAs (Decidable (_ ∨ _))

/-- A simple text that refers to no property has no reference at all. -/
theorem IsSimple.literal {raw : String} (h : IsSimple raw) (hnone : propertyOf? raw = none) :
    Template.hasReference raw = false := by
  rcases h with h | h
  · exact h
  · rw [hnone] at h
    exact absurd h nofun

namespace Reactor

structure Simple (r : Reactor) : Prop where
  versions : ∀ m ∈ r.modules, ∀ d ∈ m.declarations, ∀ old ∈ d.version, IsSimple old
  values : ∀ m ∈ r.modules, ∀ e ∈ m.bodies, ∀ property ∈ e.2.properties.entries,
    IsSimple property.2

/-- Every property that is found in a module has a simple value. -/
def SimpleProperties (r : Reactor) : Prop :=
  ∀ m name scope value, (r.module m).ownProperty? name = some (scope, value) → IsSimple value

variable {r r' : Reactor} {id : Nat}

/-- A module of the reactor, or the blank one. -/
theorem module_cases (r : Reactor) (id : Nat) :
    r.module id ∈ r.modules ∨ r.module id = default := by
  rw [Reactor.module]
  cases hid : r.modules[id]? with
  | none => exact .inr rfl
  | some m => exact .inl (List.mem_of_getElem? hid)

theorem Simple.version (h : r.Simple) {d : Declaration} {old : String}
    (hd : d ∈ (r.module id).declarations) (hversion : d.version = some old) : IsSimple old := by
  rcases r.module_cases id with hmem | hdefault
  · exact h.versions _ hmem d hd old hversion
  · rw [hdefault] at hd
    exact absurd hd List.not_mem_nil

/-- What holds of all listed values holds of every value that is found. -/
theorem forall_ownProperty? {P : String → Prop}
    (h : ∀ m ∈ r.modules, ∀ e ∈ m.bodies, ∀ property ∈ e.2.properties.entries, P property.2)
    {m : Nat} {name value : String} {scope : Scope}
    (hvalue : (r.module m).ownProperty? name = some (scope, value)) : P value := by
  obtain ⟨e, he, hbody⟩ := List.exists_of_findSome?_eq_some hvalue
  obtain ⟨found, hfound, heq⟩ := Option.map_eq_some_iff.mp hbody
  obtain ⟨rfl, rfl⟩ := Prod.mk.inj heq
  have hentry := Table.mem_of_get? hfound
  rcases r.module_cases m with hmem | hdefault
  · exact h _ hmem e he _ hentry
  · rw [hdefault] at he
    obtain rfl := List.mem_singleton.mp he
    exact absurd hentry List.not_mem_nil

theorem Simple.simpleProperties (h : r.Simple) : r.SimpleProperties :=
  fun _ _ _ _ hvalue => forall_ownProperty? h.values hvalue

theorem SimpleProperties.sameFrame (h : r.SimpleProperties) (hframe : r.SameFrame r') :
    r'.SimpleProperties := by
  intro m name scope value hvalue
  rw [(hframe.modules m).properties] at hvalue
  exact h m name scope value hvalue

/-! ## Resolving -/

section

variable {name : String} (hclosing : Template.closing ∉ name.toList)
  (hbuiltin : ProjectPart.ofName? name = none)

include hclosing hbuiltin

/-- A reference to a property that is not declared stays as it is written. -/
theorem expand_undeclared (n : Nat) (hnone : r.declaredProperty? id name = none) :
    r.expand id n (Template.referenceText name).toList = (Template.referenceText name).toList := by
  cases n with
  | zero => rfl
  | succ n =>
    have hlookup : r.lookup id name = none := by
      simp only [lookup, hbuiltin, hnone]
    rw [Template.referenceText, String.toList_ofList, expand, Template.pieces_reference hclosing]
    simp [hlookup]

/-- So does one to a property that is an alias of itself. -/
theorem expand_circular (n : Nat)
    (hself : r.declaredProperty? id name = some (Template.referenceText name)) :
    r.expand id n (Template.referenceText name).toList = (Template.referenceText name).toList := by
  induction n with
  | zero => rfl
  | succ n ih => rw [r.expand_reference id n hclosing hbuiltin hself, ih]

end

/-- A simple value is expanded to the value at the end of the aliases that are followed from it. -/
theorem expand_followAliases (hr : r.SimpleProperties) (n : Nat) {place : PropertyPlace}
    (hplace : r.nearestPlace? id place.name = some place) :
    r.expand id n place.value.toList = (r.followAliases id n place).value.toList := by
  induction n generalizing place with
  | zero => rfl
  | succ n ih =>
    obtain ⟨_, _, hown⟩ := nearestPlace?_self hplace
    rw [followAliases]
    cases htarget : propertyOf? place.value with
    | none =>
      rw [nextPlace?, htarget]
      exact r.expand_of_not_hasReference id (n + 1) ((hr _ _ _ _ hown).literal htarget)
    | some target =>
      obtain ⟨hvalue, hclosing, hbuiltin⟩ := propertyOf?_eq_some htarget
      have hdeclared := r.declaredProperty?_eq id target
      rw [nextPlace?, htarget, Option.bind_some]
      cases hnearest : r.nearestPlace? id target with
      | none =>
        rw [hnearest] at hdeclared
        rw [hvalue, expand_undeclared hclosing hbuiltin _ hdeclared]
        exact hvalue ▸ rfl
      | some next =>
        rw [hnearest, Option.map_some] at hdeclared
        by_cases hself : next = place
        · subst hself
          rw [Option.filter_some_neg (by simp), hvalue,
            expand_circular hclosing hbuiltin _ (hvalue ▸ hdeclared)]
        · rw [Option.filter_some_pos (by simpa using hself), hvalue,
            r.expand_reference id n hclosing hbuiltin hdeclared]
          exact ih ((nearestPlace?_self hnearest).2.1.symm ▸ hnearest)

/-- The value of the place that a text leads to if it refers to a property, or else the text. -/
def endValue (r : Reactor) (id : Nat) (raw : String) : String :=
  (((propertyOf? raw).bind (r.locate? id)).map PropertyPlace.value).getD raw

/-- Under simple properties a simple text is resolved by following aliases. The two limits on the
depth are the same. -/
theorem resolve_eq_endValue (hr : r.SimpleProperties) {raw : String} (hraw : IsSimple raw) :
    r.resolve id raw = r.endValue id raw := by
  rw [resolve, endValue]
  cases hname : propertyOf? raw with
  | none =>
    rw [r.expand_of_not_hasReference id _ (hraw.literal hname), String.ofList_toList]
    rfl
  | some name =>
    obtain ⟨rfl, hclosing, hbuiltin⟩ := propertyOf?_eq_some hname
    have hdeclared := r.declaredProperty?_eq id name
    rw [Option.bind_some, locate?]
    cases hnearest : r.nearestPlace? id name with
    | none =>
      rw [hnearest] at hdeclared
      rw [expand_undeclared hclosing hbuiltin _ hdeclared, String.ofList_toList]
      rfl
    | some place =>
      rw [hnearest, Option.map_some] at hdeclared
      have hplace := (nearestPlace?_self hnearest).2.1.symm ▸ hnearest
      rw [r.expand_reference id _ hclosing hbuiltin hdeclared, expand_followAliases hr _ hplace,
        String.ofList_toList]
      rfl

theorem SameFrame.endValue (h : r.SameFrame r') (id : Nat) (raw : String) :
    r'.endValue id raw = r.endValue id raw := by
  have hlocate : r'.locate? id = r.locate? id := funext (h.locate? id)
  rw [Reactor.endValue, Reactor.endValue, hlocate]

end Reactor

end BuildAlign
