import BuildAlign.Proofs.Alignment.Prevailing
import BuildAlign.Proofs.Reactor.Order

/-!
For whom a property gets its value. Beside the value a mapping keeps the artifacts that demanded it.
They are those of the prevailing demand and of the later demands for the same value. Where an
explicit demand displaced an automatic one, the demands in between were rejected, also one for the
value that prevails in the end; its artifact is not kept unless it repeats the demand, and the
validation reports its declarations as if it had never demanded the value.
-/

namespace BuildAlign

namespace Demand

/-- Whether the first demand on a property gives way to one of the later ones. -/
def isDisplaced (d : Demand) (later : List Demand) : Bool :=
  !d.explicit && later.any d.replaces

/-- The demands on a property that were made before the prevailing one. -/
def overruled : List Demand → List Demand
  | [] => []
  | d :: later =>
    if d.isDisplaced later then d :: later.takeWhile fun e => !d.replaces e else []

/-- The prevailing demand on a property and those that were made after it. -/
def reigning : List Demand → List Demand
  | [] => []
  | d :: later =>
    if d.isDisplaced later then later.dropWhile fun e => !d.replaces e else d :: later

def demanders (new : String) (demands : List Demand) : KeySet Artifact :=
  .ofList ((demands.filter fun d => d.new = new).map Demand.origin)

/-- An artifact demanded the value that prevails only before it prevailed. -/
def Unheard (demands : List Demand) : Prop :=
  ∃ e, prevailing? demands = some e ∧
    ∃ d ∈ overruled demands, d.new = e.new ∧ d.origin ∉ (demanders e.new (reigning demands)).keys

theorem overruled_append_reigning (demands : List Demand) :
    overruled demands ++ reigning demands = demands := by
  cases demands with
  | nil => rfl
  | cons d later =>
    simp only [overruled, reigning]
    split
    · rw [List.cons_append, List.takeWhile_append_dropWhile]
    · rfl

theorem mem_keys_demanders {new : String} {demands : List Demand} {a : Artifact} :
    a ∈ (demanders new demands).keys ↔ ∃ d ∈ demands, d.new = new ∧ d.origin = a := by
  simp [demanders, KeySet.mem_keys_ofList, and_assoc]

theorem prevailing_of_not_displaced {d : Demand} {later : List Demand}
    (h : d.isDisplaced later = false) :
    prevailing? (d :: later) = some d ∧ reigning (d :: later) = d :: later := by
  refine ⟨?_, by simp [reigning, h]⟩
  cases hexplicit : d.explicit with
  | true => simp [prevailing?, hexplicit]
  | false =>
    have hnone : later.find? d.replaces = none := by
      rw [List.find?_eq_none]
      simpa [isDisplaced, hexplicit] using h
    simp [prevailing?, hexplicit, hnone]

/-- A displaced demand reigns up to the first one that replaces it. -/
theorem exists_replacement {d : Demand} {later : List Demand} (h : d.isDisplaced later = true) :
    ∃ front e rest, later = front ++ e :: rest ∧ (∀ e' ∈ front, d.replaces e' = false) ∧
      d.replaces e = true ∧ prevailing? (d :: later) = some e ∧
      reigning (d :: later) = e :: rest := by
  have hautomatic : d.explicit = false := by
    simp [isDisplaced] at h
    exact h.1
  have hsome : (later.find? d.replaces).isSome = true := by
    rw [List.find?_isSome]
    simpa [isDisplaced, hautomatic] using h
  obtain ⟨e, he⟩ := Option.isSome_iff_exists.mp hsome
  obtain ⟨hreplaces, front, rest, hsplit, hfront⟩ := List.find?_eq_some_iff_append.mp he
  refine ⟨front, e, rest, hsplit, by simpa using hfront, hreplaces, ?_, ?_⟩
  · simp [prevailing?, hautomatic, he]
  · have hdrop : later.dropWhile (fun e => !d.replaces e) = e :: rest := by
      rw [hsplit, List.dropWhile_append_of_pos hfront, List.dropWhile_cons_of_neg]
      simp [hreplaces]
    rw [reigning, if_pos h, hdrop]

/-- The demanders of the value that prevails are those since it prevails, unless one was unheard. -/
theorem demanders_reigning_iff (demands : List Demand) :
    (prevailing? demands).map (fun e => (e.new, demanders e.new (reigning demands))) =
        (prevailing? demands).map (fun e => (e.new, demanders e.new demands)) ↔
      ¬ Unheard demands := by
  have hmem : ∀ d, d ∈ demands ↔ d ∈ overruled demands ∨ d ∈ reigning demands := by
    intro d
    rw [← List.mem_append, overruled_append_reigning]
  unfold Unheard
  cases prevailing? demands with
  | none => simp
  | some e =>
    simp only [Option.map_some, Option.some.injEq, Prod.mk.injEq, true_and, exists_eq_left']
    constructor
    · rintro hsame ⟨d, hd, hnew, hunheard⟩
      apply hunheard
      rw [hsame, mem_keys_demanders]
      exact ⟨d, (hmem d).mpr (.inl hd), hnew, rfl⟩
    · intro hheard
      apply KeySet.eq_of_mem_keys
      intro a
      rw [mem_keys_demanders, mem_keys_demanders]
      constructor
      · rintro ⟨d, hd, hdemand⟩
        exact ⟨d, (hmem d).mpr (.inr hd), hdemand⟩
      · rintro ⟨d, hd, hnew, rfl⟩
        rcases (hmem d).mp hd with hbefore | hsince
        · by_contra hrepeated
          rw [← mem_keys_demanders] at hrepeated
          exact hheard ⟨d, hbefore, hnew, hrepeated⟩
        · exact ⟨d, hsince, hnew, rfl⟩

end Demand

namespace PropertyLedger

open Demand

variable {r : Reactor} {ledger : PropertyLedger}

/-! ## The mapping of one property -/

/-- A mapping that is not displaced gets the demanders of its value. -/
theorem foldl_remap_of_not_displaces {m : PropertyMapping} {demands : List Demand}
    (h : ∀ d ∈ demands, ¬ d.Displaces m) :
    demands.foldl (remap r) (some m) =
      some { m with
        demandedBy := ((demands.filter fun d => d.new = m.new).map Demand.origin).foldl
          KeySet.add m.demandedBy } := by
  induction demands generalizing m with
  | nil => rfl
  | cons d later ih =>
    obtain ⟨hd, hlater⟩ := List.forall_mem_cons.mp h
    rw [List.foldl_cons, remap]
    by_cases hnew : m.new = d.new
    · rw [mapping_of_repeated hnew]
      have hrest := @ih { m with demandedBy := m.demandedBy.add d.origin } hlater
      rw [hrest]
      simp [hnew]
    · rw [mapping_of_rejected hnew hd, ih hlater]
      simp [Ne.symm hnew]

/-- A mapping that a demand has made, and that is not displaced later. -/
theorem foldl_remap_of_reigns {e : Demand} {m : PropertyMapping} {later : List Demand}
    (hnew : m.new = e.new) (horigin : m.demandedBy = .ofList [e.origin])
    (h : ∀ d ∈ later, ¬ d.Displaces m) :
    (later.foldl (remap r) (some m)).map (fun m => (m.new, m.demandedBy)) =
      some (e.new, demanders e.new (e :: later)) := by
  rw [foldl_remap_of_not_displaces h, Option.map_some, hnew, horigin]
  congr 2
  apply KeySet.eq_of_mem_keys
  intro a
  rw [KeySet.mem_keys_foldl_add, KeySet.mem_keys_ofList, mem_keys_demanders]
  simp [and_assoc, or_comm, eq_comm]

theorem displaces_first {d e : Demand} :
    e.Displaces (d.mapping r none) ↔ d.explicit = false ∧ d.replaces e = true := by
  simp only [Displaces, mapping, replaces, Bool.and_eq_true, bne_iff_ne]
  tauto

/-- The value of a property and its demanders after all demands on it: those since the prevailing
demand that ask for its value. -/
theorem foldl_remap (demands : List Demand) :
    (demands.foldl (remap r) none).map (fun m => (m.new, m.demandedBy)) =
      (prevailing? demands).map fun e => (e.new, demanders e.new (reigning demands)) := by
  cases demands with
  | nil => rfl
  | cons d later =>
    rw [List.foldl_cons, remap]
    cases hdisplaced : d.isDisplaced later with
    | false =>
      obtain ⟨hprevailing, hreigning⟩ := prevailing_of_not_displaced hdisplaced
      rw [hprevailing, hreigning, Option.map_some]
      apply foldl_remap_of_reigns rfl rfl
      intro e he hdisplaces
      obtain ⟨hautomatic, hreplaces⟩ := displaces_first.mp hdisplaces
      simp [isDisplaced, hautomatic] at hdisplaced
      rw [hdisplaced e he] at hreplaces
      cases hreplaces
    | true =>
      obtain ⟨front, e, rest, rfl, hfront, hreplaces, hprevailing, hreigning⟩ :=
        exists_replacement hdisplaced
      have hautomatic : d.explicit = false := by
        simp [isDisplaced] at hdisplaced
        exact hdisplaced.1
      rw [hprevailing, hreigning, Option.map_some, List.foldl_append]
      -- up to the replacement the first mapping stands, and then nothing displaces an explicit one
      rw [foldl_remap_of_not_displaces, List.foldl_cons, remap, mapping_of_displaces]
      · apply foldl_remap_of_reigns rfl rfl
        rintro d' _ ⟨_, _, hexplicit⟩
        cases hexplicit
      · exact (displaces_first (r := r)).mpr ⟨hautomatic, hreplaces⟩
      · intro e' he' hdisplaces
        have hkept := (displaces_first.mp hdisplaces).2
        rw [hfront e' he'] at hkept
        cases hkept

theorem mapping_recordAll (demands : List Demand) (owner : PropertyOwner) :
    ((recordAll r ∅ demands).2.get? owner).map (fun m => (m.new, m.demandedBy)) =
      (prevailing? (demandsOn r owner demands)).map fun e =>
        (e.new, demanders e.new (reigning (demandsOn r owner demands))) := by
  rw [get?_recordAll]
  exact foldl_remap _

/-! ## Validation -/

/-- Whether a declaration of a module follows a property to a value that its artifact has not
demanded since it prevails. -/
def isMisled (r : Reactor) (demands : List Demand) (id : Nat) (d : Declaration) : Bool :=
  (d.version.bind propertyOf?).any fun property =>
    let on := demandsOn r (ownerOf r id property).1 demands
    (prevailing? on).any fun e =>
      !(demanders e.new (reigning on)).contains (r.declaredArtifact id d)

def misled (r : Reactor) (demands : List Demand) : List (Nat × Artifact) :=
  r.order.flatMap fun id =>
    ((r.module id).declarations.filter (isMisled r demands id)).map fun d =>
      (id, r.declaredArtifact id d)

/-- A declaration is reported as a mismatch exactly if it is misled. -/
theorem mismatch?_recordAll (demands : List Demand) (id : Nat) (d : Declaration) :
    ((recordAll r ∅ demands).2.mismatch? r id d).map (fun x => (x.module, x.artifact)) =
      if isMisled r demands id d then some (id, r.declaredArtifact id d) else none := by
  cases hproperty : d.version.bind propertyOf? with
  | none => simp [mismatch?, isMisled, hproperty]
  | some property =>
    have hmapping := mapping_recordAll (r := r) demands (ownerOf r id property).1
    simp only [mismatch?, isMisled, mapping?, hproperty, Option.bind_eq_bind, Option.bind_some,
      Option.any_some]
    cases hget : (recordAll r ∅ demands).2.get? (ownerOf r id property).1 with
    | none =>
      rw [hget, Option.map_none, eq_comm, Option.map_eq_none_iff] at hmapping
      simp [hmapping]
    | some m =>
      rw [hget, Option.map_some, eq_comm, Option.map_eq_some_iff] at hmapping
      obtain ⟨e, he, heq⟩ := hmapping
      obtain ⟨-, hdemanders⟩ := Prod.mk.inj heq
      simp only [he, Option.any_some, Option.bind_some, hdemanders]
      cases m.demandedBy.contains (r.declaredArtifact id d) <;> simp

theorem mismatches_recordAll (demands : List Demand) :
    ((recordAll r ∅ demands).2.mismatches r).map (fun x => (x.module, x.artifact)) =
      misled r demands := by
  rw [mismatches, misled, List.map_flatMap]
  congr 1
  funext id
  rw [List.map_filterMap]
  simp only [mismatch?_recordAll]
  induction (r.module id).declarations with
  | nil => rfl
  | cons d later ih =>
    rw [List.filterMap_cons, List.filter_cons]
    split <;> simp_all

theorem mismatches_sound {x : Mismatch} (hx : x ∈ ledger.mismatches r) :
    ledger.get? (ownerOf r x.module x.property).1 = some x.mapping ∧
      x.artifact ∉ x.mapping.demandedBy.keys := by
  obtain ⟨id, -, hx⟩ := List.mem_flatMap.mp hx
  obtain ⟨d, -, hx⟩ := List.mem_filterMap.mp hx
  simp only [mismatch?, mapping?, Option.bind_eq_bind, Option.bind_eq_some_iff] at hx
  obtain ⟨property, -, mapping, hget, hx⟩ := hx
  split at hx
  · cases hx
  · rename_i hkept
    obtain rfl := Option.some.inj hx
    refine ⟨hget, ?_⟩
    rwa [Table.mem_keys_iff]

/-- Where no demander is unheard, an artifact is reported only if it never demanded the value. -/
theorem origin_ne_of_mem_mismatches {demands : List Demand} {x : Mismatch}
    (hx : x ∈ (recordAll r ∅ demands).2.mismatches r)
    (hheard : ¬ Unheard (demandsOn r (ownerOf r x.module x.property).1 demands)) :
    ∀ d ∈ demandsOn r (ownerOf r x.module x.property).1 demands,
      d.new = x.mapping.new → d.origin ≠ x.artifact := by
  intro d hd hnew horigin
  obtain ⟨hget, hkept⟩ := mismatches_sound hx
  have hmapping := mapping_recordAll (r := r) demands (ownerOf r x.module x.property).1
  rw [(demanders_reigning_iff _).mpr hheard, hget, Option.map_some, eq_comm,
    Option.map_eq_some_iff] at hmapping
  obtain ⟨e, -, heq⟩ := hmapping
  obtain ⟨he, hdemanders⟩ := Prod.mk.inj heq
  apply hkept
  rw [← hdemanders, mem_keys_demanders]
  exact ⟨d, hd, hnew.trans he.symm, horigin⟩

/-- A property gets the value of the prevailing demand on it, for the artifacts that demanded this
value since it prevails. These are all that ever demanded it exactly if none of them was unheard.
The validation reports the declarations that follow a property to a value which their artifacts are
not kept for, and fails exactly if there are any; where none was unheard, these artifacts never
demanded the value. -/
theorem demandedBy_recordAll (r : Reactor) (demands : List Demand) :
    let ledger := (recordAll r ∅ demands).2
    (∀ owner,
      let on := demandsOn r owner demands
      let kept := (ledger.get? owner).map fun m => (m.new, m.demandedBy)
      kept = (prevailing? on).map (fun e => (e.new, demanders e.new (reigning on))) ∧
        (kept = (prevailing? on).map (fun e => (e.new, demanders e.new on)) ↔ ¬ Unheard on)) ∧
    (ledger.mismatches r).map (fun x => (x.module, x.artifact)) = misled r demands ∧
    (∀ x ∈ ledger.mismatches r,
      let on := demandsOn r (ownerOf r x.module x.property).1 demands
      ¬ Unheard on → ∀ d ∈ on, d.new = x.mapping.new → d.origin ≠ x.artifact) ∧
    ∀ report, ((∃ error, ledger.validate r .fail report = .error error) ↔ misled r demands ≠ []) ∧
      (ledger.validate r .warn report).map Prod.fst = .ok (misled r demands).length := by
  intro ledger
  have hmismatches : (ledger.mismatches r).map (fun x => (x.module, x.artifact)) =
      misled r demands := mismatches_recordAll demands
  refine ⟨?_, hmismatches, fun x hx => origin_ne_of_mem_mismatches hx, ?_⟩
  · intro owner on kept
    have hkept : kept = (prevailing? on).map fun e => (e.new, demanders e.new (reigning on)) :=
      mapping_recordAll demands owner
    refine ⟨hkept, ?_⟩
    rw [hkept]
    exact demanders_reigning_iff on
  · intro report
    rw [← hmismatches]
    constructor
    · unfold validate
      cases ledger.mismatches r <;> simp
    · simp [validate, Except.map]

/-! ## An unheard demand -/

/-- One module with three libraries whose versions are `x`. -/
def threeLibraries : Reactor where
  modules := [
    { group := some "org.a", name := "root", version := some "1",
      body := {
        properties := Table.ofList [("x", "1.0")]
        dependencies := ["first", "second", "third"].map fun name =>
          { group := "org.b", name, version := some "$\x7bx\x7d" } } }]
  forest := Reactor.forest_of_checks (by simp) (by decide) (by decide)

/-- Each library demands a value of `x`, the first two automatically and the third explicitly. -/
def lateDemands : List Demand :=
  [("2.0", "first", false), ("3.0", "second", false), ("3.0", "third", true)].map
    fun (new, name, explicit) =>
      { module := 0, name := "x", new, origin := { group := "org.b", name }, explicit }

/-- The second library demands the value that the property is going to have, but it is not among
those that did, and is reported as if it had not. -/
theorem unheard_demander_reported :
    let ledger := (recordAll threeLibraries ∅ lateDemands).2
    (∃ d ∈ demandsOn threeLibraries ⟨0, "x"⟩ lateDemands,
      d.new = "3.0" ∧ d.origin = { group := "org.b", name := "second" }) ∧
    (ledger.get? ⟨0, "x"⟩).map (fun m => (m.new, m.demandedBy.keys)) =
      some ("3.0", [{ group := "org.b", name := "third" }]) ∧
    (ledger.mismatches threeLibraries).map (fun x => x.artifact.name) = ["first", "second"] := by
  decide +kernel

end PropertyLedger

end BuildAlign
