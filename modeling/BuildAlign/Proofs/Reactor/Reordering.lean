import BuildAlign.Proofs.Reactor.Chain
import BuildAlign.Proofs.Reactor.Reference
import Mathlib.Data.List.Nodup

/-!
A reactor with its modules in another order. Parent links are renamed with the modules they lead to,
so every module keeps its ancestors and all that it reads from them: its identity and its version
are what they were.
-/

namespace BuildAlign

/-! ## Links in another order -/

namespace Links

/-- Links in another order: at every place the link of the module that is listed there, to the place
where its parent is listed. -/
def reorder (links : Links) (ids : List Nat) : Links :=
  ids.map fun id => (links.parent? id).map (ids.idxOf ·)

variable {links : Links} {ids : List Nat}

theorem Forest.parent?_lt (h : Forest links) {id p : Nat} (hid : links.parent? id = some p) :
    p < links.length := by
  rw [Links.parent?, Option.join_eq_some_iff] at hid
  simpa [leadsOut] using h.inside (some p) (List.mem_of_getElem? hid)

theorem parent?_reorder {id : Nat} (hid : id ∈ ids) :
    (links.reorder ids).parent? (ids.idxOf id) = (links.parent? id).map (ids.idxOf ·) := by
  rw [Links.parent?, reorder, List.getElem?_map, List.getElem?_idxOf hid]
  rfl

/-- The walk to the root is the same walk under renamed indices. -/
theorem comesBack_reorder (h : Forest links) (hids : ∀ id, id ∈ ids ↔ id < links.length)
    (start n : Nat) {link : Option Nat} (hlink : ∀ p ∈ link, p < links.length) :
    (links.reorder ids).comesBack (ids.idxOf start) n (link.map (ids.idxOf ·)) =
      links.comesBack start n link := by
  induction n generalizing link with
  | zero => cases link <;> rfl
  | succ n ih =>
    cases link with
    | none => rfl
    | some p =>
      have hp : p ∈ ids := (hids p).mpr (hlink p rfl)
      have hsame : (ids.idxOf p == ids.idxOf start) = (p == start) := by
        rw [Bool.eq_iff_iff, beq_iff_eq, beq_iff_eq, List.idxOf_inj hp]
      rw [Option.map_some, comesBack, comesBack, hsame, parent?_reorder hp,
        ih fun q hq => h.parent?_lt hq]

/-- A forest in another order is a forest. -/
theorem Forest.reorder (h : Forest links) (hids : ids.Perm (List.range links.length)) :
    Forest (links.reorder ids) := by
  have hmem : ∀ id, id ∈ ids ↔ id < links.length := fun id =>
    hids.mem_iff.trans List.mem_range
  have hlength : (links.reorder ids).length = links.length := by
    rw [Links.reorder, List.length_map, hids.length_eq, List.length_range]
  refine ⟨fun hnil => h.nonempty ?_, ?_, ?_⟩
  · rw [← List.length_eq_zero_iff, ← hlength, hnil]
    rfl
  · intro link hlink
    obtain ⟨id, _, rfl⟩ := List.mem_map.mp hlink
    cases hid : links.parent? id with
    | none => rfl
    | some p =>
      have hp := List.idxOf_lt_length_of_mem ((hmem p).mpr (h.parent?_lt hid))
      simpa [leadsOut, hlength, hids.length_eq] using hp
  · intro i hi
    rw [hlength, List.mem_range] at hi
    obtain ⟨id, hid, rfl⟩ : ∃ id ∈ ids, ids.idxOf id = i := by
      have hi' : i < ids.length := by rwa [hids.length_eq, List.length_range]
      have hnodup : ids.Nodup := hids.nodup_iff.mpr List.nodup_range
      exact ⟨ids[i], List.getElem_mem hi', hnodup.idxOf_getElem i hi'⟩
    rw [hlength, parent?_reorder hid,
      comesBack_reorder h hmem id _ fun p hp => h.parent?_lt hp]
    exact h.ends id (List.mem_range.mpr ((hmem id).mp hid))

end Links

/-! ## Modules in another order -/

/-- A module with its link to the parent renamed. -/
def Module.relink (rename : Nat → Nat) (m : Module) : Module :=
  { m with parentModule := m.parentModule.map rename }

namespace Reactor

/-- The modules of a reactor in another order, with their links renamed accordingly. -/
def reorder (r : Reactor) (ids : List Nat) (hids : ids.Perm r.ids) : Reactor where
  modules := ids.map fun id => (r.module id).relink (ids.idxOf ·)
  forest := by
    have hlinks : (ids.map fun id => (r.module id).relink (ids.idxOf ·)).map Module.parentModule =
        Links.reorder (r.modules.map Module.parentModule) ids := by
      rw [List.map_map]
      exact List.map_congr_left fun id _ => congrArg (Option.map _) (r.parent?_eq_links id)
    rw [hlinks]
    refine r.forest.reorder ?_
    rwa [List.length_map]

variable {r : Reactor} {ids : List Nat} (hids : ids.Perm r.ids)

include hids

theorem mem_of_perm_ids {id : Nat} (hid : id < r.size) : id ∈ ids :=
  hids.mem_iff.mpr (List.mem_range.mpr hid)

theorem size_reorder : (r.reorder ids hids).size = r.size := by
  rw [size, reorder, List.length_map, hids.length_eq, Reactor.ids, List.length_range]

theorem module_reorder {id : Nat} (hid : id < r.size) :
    (r.reorder ids hids).module (ids.idxOf id) = (r.module id).relink (ids.idxOf ·) := by
  rw [module, reorder, List.getElem?_map, List.getElem?_idxOf (mem_of_perm_ids hids hid)]
  rfl

/-- The places are the new indices of the modules in the order in which they are listed. -/
theorem ids_reorder : (r.reorder ids hids).ids = ids.map (ids.idxOf ·) := by
  have hnodup : ids.Nodup := hids.nodup_iff.mpr List.nodup_range
  have hlength : ids.length = r.size := hids.length_eq.trans List.length_range
  rw [Reactor.ids, size_reorder]
  refine List.ext_getElem (by simp [hlength]) fun i hi hi' => ?_
  rw [List.getElem_range, List.getElem_map, hnodup.idxOf_getElem]

theorem parent?_reorder {id : Nat} (hid : id < r.size) :
    (r.reorder ids hids).parent? (ids.idxOf id) = (r.parent? id).map (ids.idxOf ·) := by
  rw [parent?, module_reorder hids hid]
  rfl

theorem chainUpTo_reorder (n : Nat) {id : Nat} (hid : id < r.size) :
    (r.reorder ids hids).chainUpTo n (ids.idxOf id) = (r.chainUpTo n id).map (ids.idxOf ·) := by
  induction n generalizing id with
  | zero => rfl
  | succ n ih =>
    have hparent := parent?_reorder hids hid
    cases hp : r.parent? id with
    | none =>
      rw [hp] at hparent
      rw [chainUpTo_of_none _ hparent, r.chainUpTo_of_none hp]
      rfl
    | some p =>
      rw [hp] at hparent
      rw [chainUpTo_of_some _ hparent, r.chainUpTo_of_some hp, ih (r.parent?_lt hp)]
      rfl

theorem chain_reorder {id : Nat} (hid : id < r.size) :
    (r.reorder ids hids).chain (ids.idxOf id) = (r.chain id).map (ids.idxOf ·) := by
  rw [chain, size_reorder, chainUpTo_reorder hids _ hid]
  rfl

/-! ## What a module reads -/

theorem declaredProperty?_reorder {id : Nat} (hid : id < r.size) (name : String) :
    (r.reorder ids hids).declaredProperty? (ids.idxOf id) name = r.declaredProperty? id name := by
  rw [declaredProperty?, declaredProperty?, chain_reorder hids hid, List.findSome?_map,
    ← List.head?_filterMap, ← List.head?_filterMap]
  refine congrArg List.head? (List.filterMap_congr fun m hm => ?_)
  rw [Function.comp_apply, module_reorder hids (r.lt_of_mem_chain hid hm)]
  rfl

theorem lookup_reorder {id : Nat} (hid : id < r.size) (name : String) :
    (r.reorder ids hids).lookup (ids.idxOf id) name = r.lookup id name := by
  rw [lookup, lookup]
  cases ProjectPart.ofName? name with
  | none => exact declaredProperty?_reorder hids hid name
  | some part =>
    dsimp only
    rw [module_reorder hids hid]
    cases part <;> rfl

theorem expand_reorder {id : Nat} (hid : id < r.size) (depth : Nat) (raw : List Char) :
    (r.reorder ids hids).expand (ids.idxOf id) depth raw = r.expand id depth raw := by
  induction depth generalizing raw with
  | zero => rfl
  | succ depth ih =>
    rw [expand_eq_flatMap, expand_eq_flatMap]
    refine List.flatMap_congr fun piece _ => ?_
    cases piece with
    | plain text => rfl
    | reference name =>
      rw [expandPiece, expandPiece, lookup_reorder hids hid]
      cases r.lookup id (String.ofList name) with
      | none => rfl
      | some value => exact ih value.toList

theorem resolve_reorder {id : Nat} (hid : id < r.size) :
    (r.reorder ids hids).resolve (ids.idxOf id) = r.resolve id :=
  funext fun raw => congrArg String.ofList (expand_reorder hids hid _ raw.toList)

theorem artifact_reorder {id : Nat} (hid : id < r.size) :
    (r.reorder ids hids).artifact (ids.idxOf id) = r.artifact id := by
  rw [artifact, artifact, module_reorder hids hid, resolve_reorder hids hid]
  rfl

theorem version?_reorder {id : Nat} (hid : id < r.size) :
    (r.reorder ids hids).version? (ids.idxOf id) = r.version? id := by
  rw [version?, version?, module_reorder hids hid, resolve_reorder hids hid]
  rfl

end Reactor

end BuildAlign
