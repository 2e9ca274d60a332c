import BuildAlign.Proofs.Alignment.Demands

/-!
What demanded properties resolve to. A module that refers to a property passes the places of an
alias path, and after the flush it stops at the first of them that is written. Every accepted demand
is written at the last place of its path. So it takes effect unless a demand of another module, for
which the alias does not lead as far, is written at an earlier place.
-/

namespace BuildAlign.PropertyLedger

open Reactor

/-- The value that is written at the first written place of a path. -/
def firstWrite? (ledger : PropertyLedger) (path : List PropertyPlace) : Option String :=
  path.findSome? fun place => (ledger.writes? place.owner).map Prod.snd

/-- A declaration after the flush. -/
def rewritten (ledger : PropertyLedger) (place : PropertyPlace) : PropertyPlace :=
  { place with value := ((ledger.writes? place.owner).map Prod.snd).getD place.value }

variable {ledger : PropertyLedger} {p : Progress} {id : Nat} {name : String}

section

variable (hledger : Fits p.reactor ledger)

include hledger

theorem sameLinks_flush : p.reactor.SameLinks (ledger.flush p).reactor :=
  (written_flush hledger).links

/-- The declaration of a property in one module after the flush. -/
theorem ownPlace?_flush (name : String) (m : Nat) :
    (ledger.flush p).reactor.ownPlace? name m =
      match ledger.writes? ⟨m, name⟩ with
      | some (scope, new) => some { module := m, scope := scope.getD .main, name, value := new }
      | none => p.reactor.ownPlace? name m := by
  have hflush := ownProperty?_flush hledger ⟨m, name⟩
  rw [ownPlace?, hflush]
  cases ledger.writes? ⟨m, name⟩ with
  | none => rfl
  | some w => rfl

/-- Below a root only declared properties are written. -/
theorem ownPlace?_flush_of_none {m : Nat} (hown : p.reactor.ownPlace? name m = none)
    (hparent : p.reactor.parent? m ≠ none) : (ledger.flush p).reactor.ownPlace? name m = none := by
  rw [ownPlace?_flush hledger]
  cases hw : ledger.writes? ⟨m, name⟩ with
  | none => exact hown
  | some w =>
    have hwritable := hledger.writable _ w.1 w.2 hw
    have hscope := hwritable.scope_found
    rw [p.reactor.ownPlace?_eq_none.mp hown] at hscope
    exact absurd (hwritable.undeclared hscope) hparent

theorem ownPlace?_flush_of_some {m : Nat} {place : PropertyPlace}
    (hown : p.reactor.ownPlace? name m = some place) :
    (ledger.flush p).reactor.ownPlace? name m = some (ledger.rewritten place) := by
  obtain ⟨rfl, rfl, hproperty⟩ := p.reactor.ownPlace?_eq_some hown
  rw [ownPlace?_flush hledger, rewritten, PropertyPlace.owner]
  cases hw : ledger.writes? ⟨place.module, place.name⟩ with
  | none => exact hown
  | some w =>
    have hscope := (hledger.writable _ w.1 w.2 hw).scope_found
    rw [hproperty, Option.map_some] at hscope
    simp only [hscope, Option.getD_some, Option.map_some]

theorem nearestPlace?_flush_of_some {place : PropertyPlace}
    (hnearest : p.reactor.nearestPlace? id name = some place) :
    (ledger.flush p).reactor.nearestPlace? id name = some (ledger.rewritten place) := by
  rw [nearestPlace?, (sameLinks_flush hledger).chain]
  exact findSome?_chain_of_some (fun _ => ownPlace?_flush_of_none hledger)
    (fun _ _ => ownPlace?_flush_of_some hledger) hnearest

/-- A property that is not declared is found at the root after it is written there. -/
theorem nearestPlace?_flush_of_none (hnearest : p.reactor.nearestPlace? id name = none)
    {scope : Option Scope} {new : String}
    (hw : ledger.writes? ⟨p.reactor.root id, name⟩ = some (scope, new)) :
    ((ledger.flush p).reactor.nearestPlace? id name).map PropertyPlace.value = some new := by
  have hroot : (ledger.flush p).reactor.ownPlace? name (p.reactor.root id) =
      some { module := p.reactor.root id, scope := scope.getD .main, name, value := new } := by
    rw [ownPlace?_flush hledger, hw]
  have hfound := findSome?_chain_of_none (fun _ => ownPlace?_flush_of_none hledger) hnearest hroot
  rw [nearestPlace?, (sameLinks_flush hledger).chain, hfound, Option.map_some]

/-- What a module reads of a property is as before if nothing is written where it reads it. A
declaration further up may be written: it is hidden by the nearest one. -/
theorem declaredProperty?_flush_of_not_written
    (hnot : ledger.writes? ⟨p.reactor.readsFrom id name, name⟩ = none) :
    (ledger.flush p).reactor.declaredProperty? id name = p.reactor.declaredProperty? id name := by
  rw [declaredProperty?_eq, declaredProperty?_eq]
  cases hnearest : p.reactor.nearestPlace? id name with
  | some place =>
    obtain ⟨_, hname, _⟩ := nearestPlace?_self hnearest
    rw [readsFrom_of_some hnearest, ← hname] at hnot
    rw [nearestPlace?_flush_of_some hledger hnearest, rewritten, PropertyPlace.owner, hnot]
    rfl
  | none =>
    rw [readsFrom_of_none hnearest] at hnot
    have hafter : (ledger.flush p).reactor.nearestPlace? id name = none := by
      rw [nearestPlace?, (sameLinks_flush hledger).chain]
      apply findSome?_chain_of_none (fun _ => ownPlace?_flush_of_none hledger) hnearest
      have hroot := List.findSome?_eq_none_iff.mp hnearest _ (p.reactor.root_mem_chain id)
      rw [ownPlace?_flush hledger, hnot, hroot]
    rw [hafter]

end

section

variable (hledger : Sound p.reactor ledger)

include hledger

/-- From a place on, a name is expanded to the first value that is written on the rest of the path.
-/
theorem expand_aliasPathUpTo {n : Nat} {place : PropertyPlace} {value : String}
    (hfirst : ledger.firstWrite? (p.reactor.aliasPathUpTo id n place) = some value) :
    (ledger.flush p).reactor.expand id n (ledger.rewritten place).value.toList = value.toList := by
  -- a text is expanded as often as aliases are followed, so the depth always lasts
  induction n generalizing place with
  | zero =>
    rw [firstWrite?, aliasPathUpTo, List.findSome?_singleton] at hfirst
    rw [rewritten, hfirst]
    rfl
  | succ n ih =>
    rw [firstWrite?, aliasPathUpTo, List.findSome?_cons] at hfirst
    cases hw : ledger.writes? place.owner with
    | some w =>
      rw [hw, Option.map_some] at hfirst
      obtain rfl : w.2 = value := Option.some.inj hfirst
      rw [rewritten, hw, Option.map_some]
      exact expand_of_not_hasReference _ _ _ (hledger.literal _ w.1 w.2 hw)
    | none =>
      rw [hw, Option.map_none] at hfirst
      rw [rewritten, hw, Option.map_none, Option.getD_none]
      cases hnext : p.reactor.nextPlace? id place with
      | none =>
        rw [hnext] at hfirst
        cases hfirst
      | some next =>
        rw [hnext] at hfirst
        obtain ⟨target, htarget, hnearest⟩ := nextPlace?_eq_some hnext
        obtain ⟨hvalue, hclosing, hbuiltin⟩ := propertyOf?_eq_some htarget
        have hdeclared : (ledger.flush p).reactor.declaredProperty? id target =
            some (ledger.rewritten next).value := by
          rw [declaredProperty?_eq, nearestPlace?_flush_of_some hledger.toFits hnearest, Option.map_some]
        rw [hvalue, expand_reference _ _ _ hclosing hbuiltin hdeclared]
        exact ih hfirst

theorem resolve_flush (hproperty : propertyOf? (Template.referenceText name) = some name)
    {value : String} (hfirst : ledger.firstWrite? (p.reactor.aliasPath id name) = some value) :
    (ledger.flush p).reactor.resolve id (Template.referenceText name) = value := by
  obtain ⟨_, hclosing, hbuiltin⟩ := propertyOf?_eq_some hproperty
  rw [aliasPath] at hfirst
  cases hnearest : p.reactor.nearestPlace? id name with
  | none =>
    rw [hnearest] at hfirst
    cases hfirst
  | some place =>
    rw [hnearest] at hfirst
    have hdeclared : (ledger.flush p).reactor.declaredProperty? id name =
        some (ledger.rewritten place).value := by
      rw [declaredProperty?_eq, nearestPlace?_flush_of_some hledger.toFits hnearest, Option.map_some]
    rw [resolve, expand_reference _ _ _ hclosing hbuiltin hdeclared,
      expand_aliasPathUpTo hledger hfirst, String.ofList_toList]

/-- A name that is not declared resolves to what is written at the root. -/
theorem resolve_flush_undeclared
    (hproperty : propertyOf? (Template.referenceText name) = some name)
    (hnearest : p.reactor.nearestPlace? id name = none) {scope : Option Scope} {new : String}
    (hw : ledger.writes? ⟨p.reactor.root id, name⟩ = some (scope, new)) :
    (ledger.flush p).reactor.resolve id (Template.referenceText name) = new := by
  obtain ⟨_, hclosing, hbuiltin⟩ := propertyOf?_eq_some hproperty
  have hdeclared : (ledger.flush p).reactor.declaredProperty? id name = some new := by
    rw [declaredProperty?_eq, nearestPlace?_flush_of_none hledger.toFits hnearest hw]
  rw [resolve, expand_reference _ _ _ hclosing hbuiltin hdeclared,
    expand_of_not_hasReference _ _ _ (hledger.literal _ scope new hw), String.ofList_toList]

end

/-- The path of a located property ends at its owner, so something is written on it. -/
theorem exists_firstWrite? {r : Reactor} {place : PropertyPlace} {w : Option Scope × String}
    (hlocate : r.locate? id name = some place) (hw : ledger.writes? place.owner = some w) :
    ∃ value, ledger.firstWrite? (r.aliasPath id name) = some value := by
  have hlast : place ∈ r.aliasPath id name := by
    rw [locate?_eq_getLast?] at hlocate
    exact List.mem_of_getLast? hlocate
  apply Option.isSome_iff_exists.mp
  rw [firstWrite?, List.findSome?_isSome_iff]
  exact ⟨place, hlast, by simp [hw]⟩

/-- An accepted automatic demand takes effect exactly if no other value is written at an earlier
place of its alias path. -/
theorem accepted_effective_iff (p : Progress) {demands : List Demand}
    (hall : ∀ d ∈ demands, d.Automatic p.reactor) {d : Demand}
    (hd : d ∈ (recordAll p.reactor ∅ demands).1) :
    ((recordAll p.reactor ∅ demands).2.flush p).reactor.resolve d.module
        (Template.referenceText d.name) = d.new ↔
      ∀ value, (recordAll p.reactor ∅ demands).2.firstWrite?
        (p.reactor.aliasPath d.module d.name) = some value → value = d.new := by
  have hsound : Sound p.reactor (recordAll p.reactor ∅ demands).2 :=
    sound_recordAll hall (sound_empty _)
  obtain ⟨hmem, scope, hw⟩ := accepted_written hall hd
  have hproperty := (hall d hmem).property
  rw [ownerFor, ownerOf] at hw
  cases hlocate : p.reactor.locate? d.module d.name with
  | none =>
    rw [hlocate] at hw
    have hnearest := locate?_eq_none_iff.mp hlocate
    rw [resolve_flush_undeclared hsound hproperty hnearest hw, aliasPath, hnearest]
    refine ⟨fun _ value hvalue => ?_, fun _ => rfl⟩
    cases hvalue
  | some place =>
    rw [hlocate] at hw
    obtain ⟨first, hfirst⟩ := exists_firstWrite? hlocate hw
    rw [resolve_flush hsound hproperty hfirst, hfirst]
    exact ⟨fun heq _ hvalue => (Option.some.inj hvalue).symm.trans heq, fun h => h first rfl⟩

/-! ## Two modules that share an alias -/

/-- The root declares `x` as an alias of `y`, and only its child declares `y`. -/
def sharedAlias : Progress where
  reactor := {
    modules := [
      { group := some "org.a", name := "root", version := some "1",
        body := { properties := Table.ofList [("x", "$\x7by\x7d")] } },
      { name := "child", parentModule := some 0,
        body := { properties := Table.ofList [("y", "1.0")] } }]
    forest := Reactor.forest_of_checks (by simp) (by decide) (by decide) }
  report := {}

def demandX (id : Nat) (new : String) : Demand where
  module := id
  name := "x"
  new
  origin := { group := "org.b", name := "lib" }
  explicit := false

/-- The child demands first, and then the root. -/
def demandsX : List Demand :=
  [demandX 1 "2.0", demandX 0 "3.0"]

theorem automatic_demandsX : ∀ d ∈ demandsX, d.Automatic sharedAlias.reactor := by
  intro d hd
  rcases List.mem_cons.mp hd with rfl | hd
  · exact ⟨by decide, rfl, by decide +kernel, by decide +kernel⟩
  · rw [List.mem_singleton.mp hd]
    exact ⟨by decide, rfl, by decide +kernel, by decide +kernel⟩

def ledgerX : PropertyLedger :=
  (recordAll sharedAlias.reactor ∅ demandsX).2

theorem effective_root :
    (ledgerX.flush sharedAlias).reactor.resolve 0 (Template.referenceText "x") = "3.0" := by
  have haccepted : demandX 0 "3.0" ∈ (recordAll sharedAlias.reactor ∅ demandsX).1 := by
    decide +kernel
  have hfirst : ledgerX.firstWrite? (sharedAlias.reactor.aliasPath 0 "x") = some "3.0" := by
    decide +kernel
  apply (accepted_effective_iff sharedAlias automatic_demandsX haccepted).mpr
  intro value hvalue
  exact Option.some.inj (hvalue.symm.trans hfirst)

/-- The demand of the child is accepted, but the demand of the root cuts its alias off. -/
theorem accepted_not_effective :
    demandX 1 "2.0" ∈ (recordAll sharedAlias.reactor ∅ demandsX).1 ∧
      (ledgerX.flush sharedAlias).reactor.resolve 1 (Template.referenceText "x") = "3.0" := by
  decide +kernel

end BuildAlign.PropertyLedger
