import BuildAlign.Proofs.Alignment.LedgerRun
import BuildAlign.Proofs.Module.Outline
import Mathlib.Data.Set.Card

/-!
What writing a ledger changes, slot by slot. Every mapping has a slot of its own, found before
anything is written, and no write moves the slot of a later one, although an injected property is
found by look-ups from then on. So every slot gets the value of its mapping, all other slots keep
theirs, and whatever is no property stays as it is. The changes that are reported are the slots that
had another value.
-/

namespace BuildAlign

/-! ## Slots -/

def Reactor.valueAt? (r : Reactor) (slot : PropertySlot) : Option String :=
  (r.module slot.module).property? slot.scope slot.name

namespace Module

/-- Setting a property in a scope of the module sets its value there and no other one. -/
theorem property?_setProperty {m : Module} {scope : Scope} {b : Body}
    (hbody : m.body? scope = some b) (name value : String) (scope' : Scope) (name' : String) :
    (m.setProperty scope name value).property? scope' name' =
      if scope' = scope ∧ name' = name then some value else m.property? scope' name' := by
  rw [setProperty, property?, body?_modifyBody, property?]
  by_cases hscope : scope' = scope
  · subst hscope
    rw [if_pos rfl, hbody, Option.map_some, Option.bind_some, Option.bind_some, Table.get?_insert]
    simp only [true_and]
  · rw [if_neg hscope, if_neg fun h => hscope h.1]

end Module

namespace Reactor

variable (r : Reactor)

theorem withoutProperties_setProperty (id : Nat) (scope : Scope) (name value : String) :
    (r.setProperty id scope name value).modules.map Module.withoutProperties =
      r.modules.map Module.withoutProperties := by
  apply map_modify_of_eq
  exact fun m => m.withoutProperties_setProperty scope name value

/-- A property slot is set in a body that is there; every other slot keeps its value. -/
theorem valueAt?_setProperty (slot : PropertySlot) (hinside : slot.module < r.size) {b : Body}
    (hbody : (r.module slot.module).body? slot.scope = some b) (value : String)
    (slot' : PropertySlot) :
    (r.setProperty slot.module slot.scope slot.name value).valueAt? slot' =
      if slot' = slot then some value else r.valueAt? slot' := by
  obtain ⟨module, scope, name⟩ := slot
  obtain ⟨module', scope', name'⟩ := slot'
  simp only [valueAt?, r.module_setProperty hinside, PropertySlot.mk.injEq]
  by_cases hmodule : module' = module
  · subst hmodule
    simp only [if_true, true_and]
    exact Module.property?_setProperty hbody name value scope' name'
  · rw [if_neg hmodule, if_neg fun h => hmodule h.1]

end Reactor

namespace PropertyLedger

/-- The slot that a mapping is written to: that of the main body if no module declares the property.
-/
def slotOf (e : PropertyOwner × PropertyMapping) : PropertySlot where
  module := e.1.module
  scope := e.2.scope.getD .main
  name := e.1.name

/-- Whether the slot of a mapping has another value than the mapping. -/
def alters (r : Reactor) (e : PropertyOwner × PropertyMapping) : Bool :=
  r.valueAt? (slotOf e) != some e.2.new

/-- The module, the target and the texts of the change that writing a mapping is reported as. -/
def alteration (r : Reactor) (e : PropertyOwner × PropertyMapping) :
    Nat × ChangeTarget × Option String × Option String :=
  (e.1.module, .property e.1.name, r.valueAt? (slotOf e), some e.2.new)

/-! ## One mapping -/

section

variable {p : Progress} {e : PropertyOwner × PropertyMapping}

/-- The scope of a property that can be written is one of the module. -/
theorem Writable.exists_body {r : Reactor} (h : Writable r e.1 e.2.scope) :
    ∃ b, (r.module e.1.module).body? (slotOf e).scope = some b := by
  have hscope := h.scope_found
  cases hown : (r.module e.1.module).ownProperty? e.1.name with
  | none =>
    rw [hown, Option.map_none] at hscope
    refine ⟨(r.module e.1.module).body, ?_⟩
    rw [slotOf, hscope]
    rfl
  | some found =>
    rw [hown, Option.map_some] at hscope
    have hvalue := Module.property?_of_ownProperty? hown
    obtain ⟨b, hb, -⟩ := Option.bind_eq_some_iff.mp hvalue
    refine ⟨b, ?_⟩
    rw [slotOf, hscope]
    exact hb

/-- Writing a mapping sets its slot and no other. -/
theorem valueAt?_write (hkey : e.2.owner = e.1) (h : Writable p.reactor e.1 e.2.scope)
    (slot : PropertySlot) :
    (write p e.2).reactor.valueAt? slot =
      if slot = slotOf e then some e.2.new else p.reactor.valueAt? slot := by
  obtain ⟨b, hb⟩ := h.exists_body
  obtain ⟨owner, m⟩ := e
  obtain rfl : m.owner = owner := hkey
  rw [reactor_write]
  split
  · rename_i hsame
    split
    · rename_i hslot
      rw [hslot]
      exact hsame
    · rfl
  · exact p.reactor.valueAt?_setProperty (slotOf (m.owner, m)) h.inside hb m.new slot

theorem withoutProperties_write (p : Progress) (m : PropertyMapping) :
    (write p m).reactor.modules.map Module.withoutProperties =
      p.reactor.modules.map Module.withoutProperties := by
  rw [reactor_write]
  split
  · rfl
  · exact Reactor.withoutProperties_setProperty ..

/-- Writing a mapping is one edit if it changes the value in the slot, after a warning at most. -/
theorem write_eq (p : Progress) (hkey : e.2.owner = e.1) :
    ∃ q : Progress, q.reactor = p.reactor ∧ q.report.changes = p.report.changes ∧
      q.edits = p.edits ∧ write p e.2 =
        if p.reactor.valueAt? (slotOf e) = some e.2.new then q
        else q.edit (p.reactor.setProperty e.1.module (slotOf e).scope e.1.name e.2.new)
          e.1.module (p.reactor.artifact e.1.module) (.property e.1.name)
          (p.reactor.valueAt? (slotOf e)) (some e.2.new) := by
  obtain ⟨owner, m⟩ := e
  obtain rfl : m.owner = owner := hkey
  cases hscope : m.scope with
  | none => exact ⟨p.warn .., rfl, rfl, rfl, by simp only [write, slotOf, hscope]; rfl⟩
  | some scope => exact ⟨p, rfl, rfl, rfl, by simp only [write, slotOf, hscope]; rfl⟩

/-- A mapping is reported exactly if it alters its slot, and counted as often as it is reported. -/
theorem report_write (p : Progress) (hkey : e.2.owner = e.1) :
    ∃ new : List Change, (write p e.2).report.changes = p.report.changes ++ new ∧
      (write p e.2).edits = p.edits + new.length ∧
      new.map (fun c => (c.module, c.target, c.old, c.new)) =
        ([e].filter (alters p.reactor)).map (alteration p.reactor) := by
  obtain ⟨q, -, hchanges, hedits, hwrite⟩ := write_eq p hkey
  rw [hwrite, ← hchanges, ← hedits]
  by_cases hsame : p.reactor.valueAt? (slotOf e) = some e.2.new
  · refine ⟨[], ?_⟩
    simp [hsame, alters]
  · rw [if_neg hsame]
    have halters : alters p.reactor e = true := bne_iff_ne.mpr hsame
    refine ⟨[_], rfl, rfl, ?_⟩
    rw [List.filter_cons_of_pos halters]
    rfl

end

/-! ## All mappings -/

/-- What writing some mappings changes in the reactor and adds to the report. -/
structure Flushed (entries : List (PropertyOwner × PropertyMapping)) (p p' : Progress)
    (new : List Change) : Prop where
  written : ∀ e ∈ entries, p'.reactor.valueAt? (slotOf e) = some e.2.new
  kept : ∀ slot, slot ∉ entries.map slotOf → p'.reactor.valueAt? slot = p.reactor.valueAt? slot
  rest : p'.reactor.modules.map Module.withoutProperties =
    p.reactor.modules.map Module.withoutProperties
  reported : p'.report.changes = p.report.changes ++ new
  counted : p'.edits = p.edits + new.length
  listed : new.map (fun c => (c.module, c.target, c.old, c.new)) =
    (entries.filter (alters p.reactor)).map (alteration p.reactor)

theorem owner_eq_of_slotOf_eq {e e' : PropertyOwner × PropertyMapping}
    (h : slotOf e = slotOf e') : e.1 = e'.1 := by
  obtain ⟨⟨module, name⟩, m⟩ := e
  obtain ⟨⟨module', name'⟩, m'⟩ := e'
  simp only [slotOf, PropertySlot.mk.injEq] at h
  rw [h.1, h.2.2]

/-- A mapping that is still to be written finds its slot as it was before the writes. -/
theorem flushed_foldl {p : Progress} {entries : List (PropertyOwner × PropertyMapping)}
    (hkeyed : ∀ e ∈ entries, e.2.owner = e.1)
    (hwritable : ∀ e ∈ entries, Writable p.reactor e.1 e.2.scope)
    (hdistinct : entries.Pairwise fun e e' => e.1 ≠ e'.1) :
    ∃ new, Flushed entries p ((entries.map Prod.snd).foldl write p) new := by
  induction entries generalizing p with
  | nil => exact ⟨[], nofun, fun _ _ => rfl, rfl, (List.append_nil _).symm, rfl, rfl⟩
  | cons e later ih =>
    obtain ⟨hfirst, hdistinct⟩ := List.pairwise_cons.mp hdistinct
    obtain ⟨hkey, hkeyed⟩ := List.forall_mem_cons.mp hkeyed
    obtain ⟨he, hwritable⟩ := List.forall_mem_cons.mp hwritable
    have hvalue := valueAt?_write hkey he
    have hwritable' : ∀ e' ∈ later, Writable (write p e.2).reactor e'.1 e'.2.scope := by
      intro e' he'
      refine (hwritable e' he').write (hkey.symm ▸ he) ?_
      exact hkey.symm ▸ (hfirst e' he').symm
    obtain ⟨new, hlater⟩ := ih hkeyed hwritable' hdistinct
    obtain ⟨first, hreported, hcounted, hlisted⟩ := report_write p hkey
    have hslot : ∀ e' ∈ later, slotOf e' ≠ slotOf e := fun e' he' heq =>
      hfirst e' he' (owner_eq_of_slotOf_eq heq).symm
    have hbefore : ∀ e' ∈ later,
        (write p e.2).reactor.valueAt? (slotOf e') = p.reactor.valueAt? (slotOf e') :=
      fun e' he' => (hvalue _).trans (if_neg (hslot e' he'))
    refine ⟨first ++ new, ?_, ?_, ?_, ?_, ?_, ?_⟩
    · intro e' he'
      rcases List.mem_cons.mp he' with rfl | he'
      · have hnot : slotOf e' ∉ later.map slotOf := by
          intro hmem
          obtain ⟨e'', he'', heq⟩ := List.mem_map.mp hmem
          exact hslot e'' he'' heq
        rw [List.map_cons, List.foldl_cons, hlater.kept _ hnot, hvalue, if_pos rfl]
      · exact hlater.written e' he'
    · intro slot hmem
      obtain ⟨hne, hmem⟩ := List.ne_and_not_mem_of_not_mem_cons hmem
      rw [List.map_cons, List.foldl_cons, hlater.kept slot hmem, hvalue, if_neg hne]
    · exact hlater.rest.trans (withoutProperties_write p e.2)
    · rw [List.map_cons, List.foldl_cons, hlater.reported, hreported, List.append_assoc]
    · rw [List.map_cons, List.foldl_cons, hlater.counted, hcounted, List.length_append, Nat.add_assoc]
    · have hfilter : later.filter (alters (write p e.2).reactor) =
          later.filter (alters p.reactor) :=
        List.filter_congr fun e' he' => by rw [alters, alters, hbefore e' he']
      have hmap : (later.filter (alters p.reactor)).map (alteration (write p e.2).reactor) =
          (later.filter (alters p.reactor)).map (alteration p.reactor) :=
        List.map_congr_left fun e' he' => by
          rw [alteration, alteration, hbefore e' (List.mem_of_mem_filter he')]
      rw [List.map_append, hlisted, hlater.listed, hfilter, hmap, ← List.map_append,
        ← List.filter_append, List.singleton_append]

/-- The slots that differ are those of the mappings that change one. -/
theorem Flushed.differing {entries : List (PropertyOwner × PropertyMapping)} {p p' : Progress}
    {new : List Change} (h : Flushed entries p p' new) :
    {slot | p'.reactor.valueAt? slot ≠ p.reactor.valueAt? slot} =
      {slot | slot ∈ (entries.filter (alters p.reactor)).map slotOf} := by
  refine Set.ext fun slot => ⟨fun hdiffers => ?_, fun hmem => ?_⟩
  · by_cases hmem : slot ∈ entries.map slotOf
    · obtain ⟨e, he, rfl⟩ := List.mem_map.mp hmem
      have halters : alters p.reactor e = true :=
        bne_iff_ne.mpr fun hsame => hdiffers ((h.written e he).trans hsame.symm)
      exact List.mem_map_of_mem (List.mem_filter.mpr ⟨he, halters⟩)
    · exact absurd (h.kept slot hmem) hdiffers
  · obtain ⟨e, he, rfl⟩ := List.mem_map.mp hmem
    obtain ⟨he, halters⟩ := List.mem_filter.mp he
    exact fun hsame => bne_iff_ne.mp halters (hsame.symm.trans (h.written e he))

/-! ## The ledger of a run -/

/-- Every mapping of a run of demands can be written. -/
theorem writable_recordAll {r : Reactor} {demands : List Demand}
    (hinside : ∀ d ∈ demands, d.module < r.size) {e : PropertyOwner × PropertyMapping}
    (he : e ∈ (recordAll r ∅ demands).2.entries) : Writable r e.1 e.2.scope := by
  have hget := Table.get?_of_mem he
  have hlocated : Located r (recordAll r ∅ demands).2 := by
    apply Located.recordAll
    intro owner m hm
    cases hm
  have hkey : e.1 ∈ (recordAll r ∅ demands).2.keys := List.mem_map_of_mem he
  obtain ⟨d, hd, howner⟩ := ((mem_keys_recordAll demands e.1).mp hkey).resolve_right
    (Table.not_mem_keys_empty _)
  have hwritable := writable_ownerOf (hinside d hd) d.name
  rw [scope_ownerOf, ← ownerFor, howner, ← hlocated e.1 e.2 hget] at hwritable
  exact hwritable

/-- Writing the ledger of any sequence of demands sets the slot of every mapping to its new value,
and these are as many slots as there are mappings. It changes no other slot and nothing that is no
property. It reports the slots that had another value, in the order of their owners; so they are as
many as the edits that are counted. -/
theorem flush_exact (p : Progress) (demands : List Demand)
    (hinside : ∀ d ∈ demands, d.module < p.reactor.size) :
    let ledger := (recordAll p.reactor ∅ demands).2
    let p' := ledger.flush p
    (∀ e ∈ ledger.entries, p'.reactor.valueAt? (slotOf e) = some e.2.new) ∧
      (ledger.entries.map slotOf).Nodup ∧
      (∀ slot, slot ∉ ledger.entries.map slotOf →
        p'.reactor.valueAt? slot = p.reactor.valueAt? slot) ∧
      p'.reactor.modules.map Module.withoutProperties =
        p.reactor.modules.map Module.withoutProperties ∧
      ∃ new, p'.report.changes = p.report.changes ++ new ∧
        new.map (fun c => (c.module, c.target, c.old, c.new)) =
          (ledger.entries.filter (alters p.reactor)).map (alteration p.reactor) ∧
        p'.edits = p.edits + new.length ∧
        {slot | p'.reactor.valueAt? slot ≠ p.reactor.valueAt? slot}.encard = new.length := by
  intro ledger p'
  have hkeyed : ledger.Keyed := keyed_empty.recordAll demands
  obtain ⟨new, hflushed⟩ : ∃ new, Flushed ledger.entries p p' new :=
    flushed_foldl (fun e he => hkeyed.of_mem he) (fun e he => writable_recordAll hinside he)
      ledger.distinct
  have hnodup : (ledger.entries.map slotOf).Nodup := by
    refine List.pairwise_map.mpr (ledger.distinct.imp fun hne heq => ?_)
    exact hne (owner_eq_of_slotOf_eq heq)
  refine ⟨hflushed.written, hnodup, hflushed.kept, hflushed.rest, new, hflushed.reported,
    hflushed.listed, hflushed.counted, ?_⟩
  have hsub : ((ledger.entries.filter (alters p.reactor)).map slotOf).Nodup :=
    hnodup.sublist (List.filter_sublist.map slotOf)
  have hlength : new.length = (ledger.entries.filter (alters p.reactor)).length := by
    have hlisted := congrArg List.length hflushed.listed
    rwa [List.length_map, List.length_map] at hlisted
  rw [hflushed.differing, ← List.coe_toFinset, Set.encard_coe_eq_coe_finsetCard,
    List.toFinset_card_of_nodup hsub, List.length_map, hlength]

/-! ## Properties of all kinds -/

/-- The root declares `a`, an alias `c` of it, and `b` in a profile. -/
def rootWithProfile : Progress where
  reactor := {
    modules := [
      { group := some "org.a", name := "root", version := some "1",
        body := { properties := Table.ofList [("a", "1.0"), ("c", "$\x7ba\x7d")] }
        profiles := [{ id := "ci", body := { properties := Table.ofList [("b", "2.0")] } }] },
      { name := "child", parentModule := some 0 }]
    forest := Reactor.forest_of_checks (by simp) (by decide) (by decide) }
  report := {}

/-- The child demands a value of the alias, the value that `b` has, and a property that is not
declared. The last demand is rejected. -/
def demandsOfChild : List Demand :=
  [(1, "c", "3.0"), (1, "b", "2.0"), (1, "x", "4.0"), (0, "a", "9.9")].map
    fun (module, name, new) =>
      { module, name, new, origin := { group := "org.b", name }, explicit := false }

/-- Three slots are written and two of them had another value. -/
theorem flush_demandsOfChild :
    let ledger := (recordAll rootWithProfile.reactor ∅ demandsOfChild).2
    let p' := ledger.flush rootWithProfile
    (∀ d ∈ demandsOfChild, d.module < rootWithProfile.reactor.size) ∧
      ledger.entries.map slotOf = [⟨0, .main, "a"⟩, ⟨0, .profile 0, "b"⟩, ⟨0, .main, "x"⟩] ∧
      (∀ e ∈ ledger.entries, p'.reactor.valueAt? (slotOf e) = some e.2.new) ∧
      {slot | p'.reactor.valueAt? slot ≠ rootWithProfile.reactor.valueAt? slot}.encard = 2 := by
  intro ledger p'
  have hinside : ∀ d ∈ demandsOfChild, d.module < rootWithProfile.reactor.size := by
    decide
  obtain ⟨hwritten, -, -, -, new, -, -, hcounted, hdiffering⟩ :=
    flush_exact rootWithProfile demandsOfChild hinside
  have hedits : p'.edits = 2 := by
    decide +kernel
  have hlength : new.length = 2 := by
    rw [← hedits, hcounted]
    exact (Nat.zero_add _).symm
  refine ⟨hinside, by decide +kernel, hwritten, ?_⟩
  rw [hdiffering, hlength]
  rfl

end PropertyLedger

end BuildAlign
