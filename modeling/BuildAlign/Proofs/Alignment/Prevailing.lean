import BuildAlign.Proofs.Alignment.Mapping

/-!
Which of several demands on one property prevails. The first demand stands until an explicit demand
with another value replaces it, and from then on nothing does. An explicit demand that repeats the
value of an automatic one leaves the mapping automatic, so a later explicit demand still replaces
it. That is the only way in which the first explicit demand can lose.
-/

namespace BuildAlign

namespace Demand

def replaces (d e : Demand) : Bool :=
  e.explicit && e.new != d.new

/-- The demand that decides the value of a property, of all demands on it. -/
def prevailing? : List Demand → Option Demand
  | [] => none
  | d :: later => some (if d.explicit then d else (later.find? d.replaces).getD d)

/-- The first explicit demand, or the first one if none is explicit. -/
def foremost? (demands : List Demand) : Option Demand :=
  (demands.find? Demand.explicit).or demands.head?

/-- The first explicit demand repeats the value of an automatic first demand, and another explicit
demand asks for a different value. -/
def Overlooked (demands : List Demand) : Prop :=
  ∃ d later, demands = d :: later ∧ d.explicit = false ∧
    (later.find? Demand.explicit).map Demand.new = some d.new ∧ ∃ e ∈ later, d.replaces e = true

theorem explicit_of_replaces {d e : Demand} (h : d.replaces e = true) :
    e.explicit = true ∧ e.new ≠ d.new := by
  simpa [replaces] using h

/-- The first explicit demand replaces an automatic one, unless it repeats its value. -/
theorem find?_replaces {d e : Demand} {later : List Demand}
    (he : later.find? Demand.explicit = some e) (hne : e.new ≠ d.new) :
    later.find? d.replaces = some e := by
  obtain ⟨hexplicit, front, rest, hsplit, hfront⟩ := List.find?_eq_some_iff_append.mp he
  refine List.find?_eq_some_iff_append.mpr ⟨by simp [replaces, hexplicit, hne], front, rest,
    hsplit, fun e' he' => ?_⟩
  have hautomatic : e'.explicit = false := by simpa using hfront e' he'
  simp [replaces, hautomatic]

/-- The demand that prevails asks for the value of the foremost one, unless an explicit demand was
overlooked because it asked for the value that was there already. -/
theorem prevailing_eq_foremost_iff (demands : List Demand) :
    (prevailing? demands).map Demand.new = (foremost? demands).map Demand.new ↔
      ¬ Overlooked demands := by
  cases demands with
  | nil =>
    refine iff_of_true rfl ?_
    rintro ⟨d, later, hdemands, -⟩
    cases hdemands
  | cons d later =>
    cases hd : d.explicit with
    | true =>
      refine iff_of_true (by simp [prevailing?, foremost?, hd]) ?_
      rintro ⟨d', later', hdemands, hautomatic, -⟩
      obtain ⟨rfl, rfl⟩ := List.cons.inj hdemands
      exact absurd (hd.symm.trans hautomatic) nofun
    | false =>
      have hforemost : foremost? (d :: later) = some ((later.find? Demand.explicit).getD d) := by
        rw [foremost?, List.find?_cons, hd]
        cases later.find? Demand.explicit <;> rfl
      have hoverlooked : Overlooked (d :: later) ↔
          (later.find? Demand.explicit).map Demand.new = some d.new ∧
            ∃ e ∈ later, d.replaces e = true := by
        constructor
        · rintro ⟨d', later', hdemands, -, h⟩
          obtain ⟨rfl, rfl⟩ := List.cons.inj hdemands
          exact h
        · exact fun h => ⟨d, later, rfl, hd, h⟩
      rw [hforemost, hoverlooked, prevailing?, hd, if_neg Bool.false_ne_true]
      simp only [Option.map_some, Option.some.injEq]
      cases he : later.find? Demand.explicit with
      | none =>
        -- without explicit demands nothing replaces the first one
        have hstands : later.find? d.replaces = none := by
          refine List.find?_eq_none.mpr fun e hmem hreplaces => ?_
          exact List.find?_eq_none.mp he e hmem (explicit_of_replaces hreplaces).1
        simp [hstands]
      | some e =>
        by_cases hrepeats : e.new = d.new
        · cases hf : later.find? d.replaces with
          | none => simpa [hrepeats] using List.find?_eq_none.mp hf
          | some f =>
            have hreplaces : d.replaces f = true := List.find?_some hf
            have hne := (explicit_of_replaces hreplaces).2
            simpa [hrepeats, hne] using ⟨f, List.mem_of_find?_eq_some hf, hreplaces⟩
        · simp [find?_replaces he hrepeats, hrepeats]

end Demand

namespace PropertyLedger

def demandsOn (r : Reactor) (owner : PropertyOwner) (demands : List Demand) : List Demand :=
  demands.filter fun d => ownerFor r d = owner

/-- The value that a property is going to have, and whether an explicit demand set it. -/
def held? (ledger : PropertyLedger) (owner : PropertyOwner) : Option (String × Bool) :=
  (ledger.get? owner).map fun m => (m.new, m.explicit)

/-- What a demand makes of the value that is held. -/
def settle : Option (String × Bool) → Demand → Option (String × Bool)
  | none, d => some (d.new, d.explicit)
  | some (new, explicit), d =>
    if new ≠ d.new ∧ d.explicit = true ∧ explicit = false then some (d.new, true)
    else some (new, explicit)

variable {r : Reactor} {ledger : PropertyLedger}

/-! ## One demand -/

/-- What a demand makes of the mapping of its property, if there is one. -/
def remap (r : Reactor) (m : Option PropertyMapping) (d : Demand) : Option PropertyMapping :=
  some (d.mapping r m)

/-- A demand settles the value that is held as it remaps the property. -/
theorem settle_map (r : Reactor) (m : Option PropertyMapping) (d : Demand) :
    settle (m.map fun m => (m.new, m.explicit)) d =
      (remap r m d).map fun m => (m.new, m.explicit) := by
  cases m with
  | none => rfl
  | some m =>
    simp only [remap, Option.map_some, settle]
    split
    · rename_i hdisplaces
      rw [Demand.mapping_of_displaces hdisplaces]
    · rename_i hstays
      obtain ⟨hnew, _, hexplicit⟩ := Demand.mapping_kept (r := r) hstays
      rw [hnew, hexplicit]

/-! ## All demands -/

/-- The mapping of a property is made by the demands on it alone. -/
theorem get?_recordAll (owner : PropertyOwner) (demands : List Demand) :
    (recordAll r ledger demands).2.get? owner =
      (demandsOn r owner demands).foldl (remap r) (ledger.get? owner) := by
  induction demands generalizing ledger with
  | nil => rfl
  | cons d later ih =>
    simp only [recordAll, ih, get?_record, demandsOn, List.filter_cons]
    by_cases howner : ownerFor r d = owner
    · rw [if_pos howner.symm, if_pos (by simpa using howner), List.foldl_cons, remap]
    · rw [if_neg fun h => howner h.symm, if_neg (by simpa using howner)]

/-- The value that is held in the end is settled by the demands on the property alone. -/
theorem held?_recordAll (owner : PropertyOwner) (demands : List Demand) :
    (recordAll r ledger demands).2.held? owner =
      (demandsOn r owner demands).foldl settle (ledger.held? owner) := by
  rw [held?, get?_recordAll, held?]
  symm
  exact List.foldl_hom _ (settle_map r)

theorem foldl_settle_explicit (new : String) (demands : List Demand) :
    demands.foldl settle (some (new, true)) = some (new, true) := by
  induction demands with
  | nil => rfl
  | cons d later ih => simpa [settle] using ih

/-- An automatic value stands up to the first explicit demand of another one. -/
theorem foldl_settle_automatic (d : Demand) (demands : List Demand) :
    (demands.foldl settle (some (d.new, false))).map Prod.fst =
      some ((demands.find? d.replaces).getD d).new := by
  induction demands with
  | nil => rfl
  | cons e later ih =>
    rw [List.foldl_cons, List.find?_cons]
    cases hreplaces : d.replaces e with
    | true =>
      obtain ⟨hexplicit, hne⟩ := Demand.explicit_of_replaces hreplaces
      rw [settle, if_pos ⟨hne.symm, hexplicit, rfl⟩, foldl_settle_explicit]
      rfl
    | false =>
      rw [settle, if_neg, ih]
      rintro ⟨hne, hexplicit, -⟩
      simp [Demand.replaces, hexplicit, hne.symm] at hreplaces

theorem foldl_settle (demands : List Demand) :
    (demands.foldl settle none).map Prod.fst = (Demand.prevailing? demands).map Demand.new := by
  cases demands with
  | nil => rfl
  | cons d later =>
    rw [List.foldl_cons, settle, Demand.prevailing?, Option.map_some]
    cases hd : d.explicit with
    | true =>
      rw [foldl_settle_explicit]
      rfl
    | false => exact foldl_settle_automatic d later

/-- A property is going to have the value of the prevailing demand on it. That is the value of the
first explicit demand, or of the first one if none is explicit, exactly if no explicit demand was
overlooked. -/
theorem held_foremost_iff (r : Reactor) (demands : List Demand) (owner : PropertyOwner) :
    let held := ((recordAll r ∅ demands).2.get? owner).map PropertyMapping.new
    held = (Demand.prevailing? (demandsOn r owner demands)).map Demand.new ∧
      (held = (Demand.foremost? (demandsOn r owner demands)).map Demand.new ↔
        ¬ Demand.Overlooked (demandsOn r owner demands)) := by
  intro held
  have hheld : held = ((recordAll r ∅ demands).2.held? owner).map Prod.fst := by
    rw [held?, Option.map_map]
    rfl
  have hprevailing : held = (Demand.prevailing? (demandsOn r owner demands)).map Demand.new := by
    rw [hheld, held?_recordAll]
    exact foldl_settle _
  refine ⟨hprevailing, ?_⟩
  rw [hprevailing]
  exact Demand.prevailing_eq_foremost_iff _

/-! ## An overlooked demand -/

def oneProperty : Reactor where
  modules := [
    { group := some "org.a", name := "root", version := some "1",
      body := { properties := Table.ofList [("x", "1.0")] } }]
  forest := Reactor.forest_of_checks (by simp) (by decide) (by decide)

/-- An automatic demand on `x`, an explicit one of the same value, and an explicit one of another
value. -/
def repeatedDemands : List Demand :=
  [("2.0", "auto", false), ("2.0", "first", true), ("3.0", "second", true)].map
    fun (new, origin, explicit) =>
      { module := 0, name := "x", new, origin := { group := "org.b", name := origin }, explicit }

/-- The first explicit demand asks for 2.0, but the property is going to be 3.0. -/
theorem overlooked_demand_loses :
    (Demand.foremost? (demandsOn oneProperty ⟨0, "x"⟩ repeatedDemands)).map
        (fun d => (d.new, d.explicit)) = some ("2.0", true) ∧
      ((recordAll oneProperty ∅ repeatedDemands).2.get? ⟨0, "x"⟩).map PropertyMapping.new =
        some "3.0" := by
  decide +kernel

end PropertyLedger

end BuildAlign
