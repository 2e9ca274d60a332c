import BuildAlign.Proofs.Alignment.Effective
import BuildAlign.Proofs.Alignment.StrictCheck
import BuildAlign.Proofs.Reactor.Simple

/-!
Ledgers that only replace values without references, and only by values that the strict check lets
pass. They cut off no alias and make none, so every name leads to the same place as before, and what
is found there is the old value or one that may replace it.
-/

namespace BuildAlign.PropertyLedger

open Reactor

/-- Every value that is written replaces another one, both have no references, and the strict check
lets the new one pass. -/
def Checked (strict : StrictPolicy) (r : Reactor) (ledger : PropertyLedger) : Prop :=
  ∀ owner scope new, ledger.writes? owner = some (scope, new) →
    ∃ found value, (r.module owner.module).ownProperty? owner.name = some (found, value) ∧
      Template.hasReference value = false ∧ Template.hasReference new = false ∧
      strict.check value new = true

variable {strict : StrictPolicy} {ledger : PropertyLedger} {p : Progress}

section

variable (hsound : Sound p.reactor ledger) (hchecked : Checked strict p.reactor ledger)

include hchecked

/-- A place after the flush has the same value, or one that may replace it. -/
theorem rewritten_cases {place : PropertyPlace}
    (hown : (p.reactor.module place.module).ownProperty? place.name =
      some (place.scope, place.value)) :
    ledger.rewritten place = place ∨
      Template.hasReference place.value = false ∧
        Template.hasReference (ledger.rewritten place).value = false ∧
        strict.check place.value (ledger.rewritten place).value = true := by
  cases hw : ledger.writes? place.owner with
  | none =>
    left
    rw [rewritten, hw]
    rfl
  | some w =>
    right
    obtain ⟨found, value, hfound, hvalue, hnew, hcheck⟩ := hchecked place.owner w.1 w.2 hw
    obtain rfl : value = place.value :=
      congrArg Prod.snd (Option.some.inj (hfound.symm.trans hown))
    have hrewritten : (ledger.rewritten place).value = w.2 := by
      rw [rewritten, hw]
      rfl
    rw [hrewritten]
    exact ⟨hvalue, hnew, hcheck⟩

/-- An alias stays one, and no other value becomes one. -/
theorem propertyOf?_rewritten {place : PropertyPlace}
    (hown : (p.reactor.module place.module).ownProperty? place.name =
      some (place.scope, place.value)) :
    propertyOf? (ledger.rewritten place).value = propertyOf? place.value := by
  rcases rewritten_cases hchecked hown with heq | ⟨hvalue, hnew, _⟩
  · rw [heq]
  · rw [propertyOf?_of_not_hasReference hvalue, propertyOf?_of_not_hasReference hnew]

include hsound

/-- The flush moves no declaration: a property is found where it was, with the value that is written
there. -/
theorem nearestPlace?_flush (id : Nat) (name : String) :
    (ledger.flush p).reactor.nearestPlace? id name =
      (p.reactor.nearestPlace? id name).map ledger.rewritten := by
  cases hnearest : p.reactor.nearestPlace? id name with
  | some place => exact nearestPlace?_flush_of_some hsound.toFits hnearest
  | none =>
    rw [nearestPlace?, (sameLinks_flush hsound.toFits).chain]
    refine List.findSome?_eq_none_iff.mpr fun m hm => ?_
    have hown := List.findSome?_eq_none_iff.mp hnearest m hm
    rw [ownPlace?_flush hsound.toFits]
    cases hw : ledger.writes? ⟨m, name⟩ with
    | none => exact hown
    | some w =>
      -- only what is declared is written
      obtain ⟨found, value, hfound, _⟩ := hchecked _ w.1 w.2 hw
      rw [p.reactor.ownPlace?_eq_none.mp hown] at hfound
      cases hfound

/-- An alias leads to the same declaration after the flush. -/
theorem nextPlace?_flush {id : Nat} {place : PropertyPlace}
    (hplace : p.reactor.nearestPlace? id place.name = some place) :
    (ledger.flush p).reactor.nextPlace? id (ledger.rewritten place) =
      (p.reactor.nextPlace? id place).map ledger.rewritten := by
  obtain ⟨_, _, hown⟩ := nearestPlace?_self hplace
  rw [nextPlace?, nextPlace?, propertyOf?_rewritten hchecked hown]
  cases propertyOf? place.value with
  | none => rfl
  | some target =>
    rw [Option.bind_some, Option.bind_some, nearestPlace?_flush hsound hchecked]
    cases hnearest : p.reactor.nearestPlace? id target with
    | none => rfl
    | some next =>
      rw [Option.map_some]
      by_cases hself : next = place
      · subst hself
        rw [Option.filter_some_neg (by simp), Option.filter_some_neg (by simp), Option.map_none]
      · have hne : ledger.rewritten next ≠ ledger.rewritten place := by
          intro heq
          have hrewritten := congrArg PropertyPlace.name heq
          have hname : next.name = place.name := hrewritten
          rw [← (nearestPlace?_self hnearest).2.1, hname, hplace] at hnearest
          exact hself (Option.some.inj hnearest).symm
        rw [Option.filter_some_pos (by simpa using hne),
          Option.filter_some_pos (by simpa using hself), Option.map_some]

/-- Aliases lead to the same place, since what is written there is a literal value and no alias is
written. -/
theorem followAliases_flush {id : Nat} (n : Nat) {place : PropertyPlace}
    (hplace : p.reactor.nearestPlace? id place.name = some place) :
    (ledger.flush p).reactor.followAliases id n (ledger.rewritten place) =
      ledger.rewritten (p.reactor.followAliases id n place) := by
  induction n generalizing place with
  | zero => rfl
  | succ n ih =>
    rw [followAliases, followAliases, nextPlace?_flush hsound hchecked hplace]
    cases hnext : p.reactor.nextPlace? id place with
    | none => rfl
    | some next =>
      obtain ⟨target, _, hnearest⟩ := nextPlace?_eq_some hnext
      exact ih ((nearestPlace?_self hnearest).2.1.symm ▸ hnearest)

/-- A name leads to the same place. -/
theorem locate?_flush_checked (id : Nat) (name : String) :
    (ledger.flush p).reactor.locate? id name =
      (p.reactor.locate? id name).map ledger.rewritten := by
  rw [locate?, locate?, nearestPlace?_flush hsound hchecked]
  cases hnearest : p.reactor.nearestPlace? id name with
  | none => rfl
  | some place =>
    have hplace := (nearestPlace?_self hnearest).2.1.symm ▸ hnearest
    rw [Option.map_some, Option.map_some, followAliases_flush hsound hchecked maxDepth hplace]
    rfl

/-- What a text leads to is the same as before, or may replace it. -/
theorem endValue_flush (id : Nat) (raw : String) :
    (ledger.flush p).reactor.endValue id raw = p.reactor.endValue id raw ∨
      strict.check (p.reactor.endValue id raw) ((ledger.flush p).reactor.endValue id raw) =
        true := by
  rw [endValue, endValue]
  cases propertyOf? raw with
  | none => exact .inl rfl
  | some name =>
    rw [Option.bind_some, Option.bind_some, locate?_flush_checked hsound hchecked]
    cases hlocate : p.reactor.locate? id name with
    | none => exact .inl rfl
    | some place =>
      obtain ⟨_, _, hown⟩ := nearestPlace?_self (nearestPlace?_of_locate? hlocate)
      rcases rewritten_cases hchecked hown with heq | ⟨_, _, hcheck⟩
      · rw [Option.map_some, heq]
        exact .inl rfl
      · exact .inr hcheck

end

/-- Property values stay simple. -/
theorem simpleProperties_flush (hsound : Sound p.reactor ledger)
    (hsimple : p.reactor.SimpleProperties) : (ledger.flush p).reactor.SimpleProperties := by
  intro m name scope value hvalue
  have hflush := ownProperty?_flush hsound.toFits ⟨m, name⟩
  rw [hvalue] at hflush
  cases hw : ledger.writes? ⟨m, name⟩ with
  | none =>
    rw [hw] at hflush
    exact hsimple m name scope value hflush.symm
  | some w =>
    rw [hw] at hflush
    obtain rfl : value = w.2 := congrArg Prod.snd (Option.some.inj hflush)
    exact .inl (hsound.literal _ w.1 w.2 hw)

end BuildAlign.PropertyLedger
