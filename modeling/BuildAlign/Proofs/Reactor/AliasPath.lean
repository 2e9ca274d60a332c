import BuildAlign.Proofs.Reactor.Chain
import BuildAlign.Proofs.Reactor.Reference
import BuildAlign.Reactor.Property

/-!
The way of a name. A module that refers to a property finds the nearest declaration of it, and from
there on every alias leads to the nearest declaration of another name. The last place on the way is
the one that decides the value.
-/

namespace BuildAlign

namespace Reactor

variable (r : Reactor) (id : Nat)

/-- The module whose declaration of a property a module reads. What no module above declares is
looked for at the root, where it would be injected. -/
def readsFrom (name : String) : Nat :=
  match r.nearestPlace? id name with
  | none => r.root id
  | some place => place.module

/-- The places from a declaration along at most `n` aliases. -/
def aliasPathUpTo : Nat → PropertyPlace → List PropertyPlace
  | 0, place => [place]
  | n + 1, place =>
    place :: match r.nextPlace? id place with
      | none => []
      | some next => aliasPathUpTo n next

/-- The places that are passed from a name to its value; none if the name is not declared. -/
def aliasPath (name : String) : List PropertyPlace :=
  match r.nearestPlace? id name with
  | none => []
  | some place => r.aliasPathUpTo id maxDepth place

theorem getLast?_aliasPathUpTo (n : Nat) (place : PropertyPlace) :
    (r.aliasPathUpTo id n place).getLast? = some (r.followAliases id n place) := by
  induction n generalizing place with
  | zero => rfl
  | succ n ih =>
    rw [aliasPathUpTo, followAliases]
    cases r.nextPlace? id place with
    | none => rfl
    | some next => rw [List.getLast?_cons, ih next, Option.getD_some]

theorem locate?_eq_getLast? (name : String) :
    r.locate? id name = (r.aliasPath id name).getLast? := by
  rw [locate?, aliasPath]
  cases r.nearestPlace? id name with
  | none => rfl
  | some place => exact (r.getLast?_aliasPathUpTo id maxDepth place).symm

/-! ## The nearest declaration -/

theorem ownPlace?_eq_some {name : String} {m : Nat} {place : PropertyPlace}
    (h : r.ownPlace? name m = some place) :
    place.module = m ∧ place.name = name ∧
      (r.module m).ownProperty? name = some (place.scope, place.value) := by
  obtain ⟨⟨scope, value⟩, hown, rfl⟩ := Option.map_eq_some_iff.mp h
  exact ⟨rfl, rfl, hown⟩

theorem ownPlace?_eq_none {name : String} {m : Nat} :
    r.ownPlace? name m = none ↔ (r.module m).ownProperty? name = none :=
  Option.map_eq_none_iff

variable {r id} {name : String} {place : PropertyPlace}

/-- A place on the way is the nearest one of its name. -/
theorem nearestPlace?_self (h : r.nearestPlace? id name = some place) :
    place.module ∈ r.chain id ∧ place.name = name ∧
      (r.module place.module).ownProperty? name = some (place.scope, place.value) := by
  obtain ⟨m, hm, hown⟩ := List.exists_of_findSome?_eq_some h
  obtain ⟨rfl, hname, hproperty⟩ := r.ownPlace?_eq_some hown
  exact ⟨hm, hname, hproperty⟩

theorem declaredProperty?_eq (r : Reactor) (id : Nat) (name : String) :
    r.declaredProperty? id name = (r.nearestPlace? id name).map PropertyPlace.value := by
  rw [declaredProperty?, nearestPlace?, List.map_findSome?]
  congr 1
  funext m
  rw [Function.comp_apply, ownPlace?, Option.map_map]
  rfl

theorem readsFrom_of_some (h : r.nearestPlace? id name = some place) :
    r.readsFrom id name = place.module := by
  rw [readsFrom, h]

theorem readsFrom_of_none (h : r.nearestPlace? id name = none) :
    r.readsFrom id name = r.root id := by
  rw [readsFrom, h]

/-- A property is found alike if all modules that are searched have it alike. -/
theorem nearestPlace?_congr {r' : Reactor} (hlinks : r.SameLinks r')
    (hown : ∀ m ∈ r.chain id, (r'.module m).ownProperty? name = (r.module m).ownProperty? name) :
    r'.nearestPlace? id name = r.nearestPlace? id name := by
  rw [nearestPlace?, nearestPlace?, hlinks.chain]
  generalize r.chain id = ms at hown
  induction ms with
  | nil => rfl
  | cons m later ih =>
    obtain ⟨hm, hlater⟩ := List.forall_mem_cons.mp hown
    rw [List.findSome?_cons, List.findSome?_cons, ih hlater, ownPlace?, hm, ownPlace?]

theorem nextPlace?_eq_some {next : PropertyPlace} (h : r.nextPlace? id place = some next) :
    ∃ target, propertyOf? place.value = some target ∧ r.nearestPlace? id target = some next := by
  obtain ⟨hnext, _⟩ := Option.filter_eq_some_iff.mp h
  exact Option.bind_eq_some_iff.mp hnext

theorem nearestPlace?_followAliases (n : Nat) (h : r.nearestPlace? id place.name = some place) :
    r.nearestPlace? id (r.followAliases id n place).name = some (r.followAliases id n place) := by
  induction n generalizing place with
  | zero => exact h
  | succ n ih =>
    rw [followAliases]
    cases hnext : r.nextPlace? id place with
    | none => exact h
    | some next =>
      obtain ⟨target, _, hnearest⟩ := nextPlace?_eq_some hnext
      exact ih ((nearestPlace?_self hnearest).2.1.symm ▸ hnearest)

theorem nearestPlace?_of_locate? (h : r.locate? id name = some place) :
    r.nearestPlace? id place.name = some place := by
  obtain ⟨first, hfirst, rfl⟩ := Option.map_eq_some_iff.mp h
  exact nearestPlace?_followAliases maxDepth ((nearestPlace?_self hfirst).2.1.symm ▸ hfirst)

theorem locate?_eq_none_iff : r.locate? id name = none ↔ r.nearestPlace? id name = none :=
  Option.map_eq_none_iff

end Reactor

end BuildAlign
