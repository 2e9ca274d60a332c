import BuildAlign.Proofs.Reactor.Order
import BuildAlign.Proofs.Reactor.Tree
import Mathlib.Data.Finset.Card
import Mathlib.Logic.Relation

/-!
Which lists of modules are reactors. The check of the links counts steps and looks for its start
only; it accepts a list exactly if no module is above itself, since every step up leaves a module
behind that is not met again. In a reactor the walk from a module is the whole path to the module at
the top.
-/

namespace BuildAlign.Reactor

def IsParent (modules : List Module) (i j : Nat) : Prop :=
  ∃ m, modules[i]? = some m ∧ m.parentModule = some j

/-- A list of modules that is a tree, or several of them: there is a module, the parents are in the
list, and no module is an ancestor of itself. -/
structure IsTree (modules : List Module) : Prop where
  nonempty : modules ≠ []
  inside : ∀ i j, IsParent modules i j → j < modules.length
  acyclic : ∀ i, ¬ Relation.TransGen (IsParent modules) i i

/-- The path from a module to the one at the top, along the parents. -/
inductive Ascends (modules : List Module) : Nat → List Nat → Prop
  | top {i : Nat} (parentless : ∀ j, ¬ IsParent modules i j) : Ascends modules i [i]
  | up {i j : Nat} {path : List Nat} (parent : IsParent modules i j)
      (rest : Ascends modules j path) : Ascends modules i (i :: path)

variable {modules : List Module}

theorem isParent_iff {i j : Nat} :
    IsParent modules i j ↔ Links.parent? (modules.map Module.parentModule) i = some j := by
  rw [Links.parent?, List.getElem?_map, Option.join_eq_some_iff, Option.map_eq_some_iff]
  rfl

theorem isParent_iff_parent? {r : Reactor} {i j : Nat} :
    IsParent r.modules i j ↔ r.parent? i = some j := by
  rw [isParent_iff, parent?_eq_links]

/-! ## Trees pass the check -/

open scoped Classical in
/-- The modules of the list above a module. -/
noncomputable def ancestors (modules : List Module) (i : Nat) : Finset Nat :=
  (Finset.range modules.length).filter (Relation.TransGen (IsParent modules) i)

theorem IsTree.mem_ancestors (h : IsTree modules) {i j : Nat} :
    j ∈ ancestors modules i ↔ Relation.TransGen (IsParent modules) i j := by
  classical
  rw [ancestors, Finset.mem_filter, Finset.mem_range]
  refine ⟨And.right, fun hj => ⟨?_, hj⟩⟩
  obtain ⟨k, _, hk⟩ := Relation.TransGen.tail'_iff.mp hj
  exact h.inside k j hk

/-- Fewer modules are above the parent than above the module. -/
theorem IsTree.card_ancestors_lt (h : IsTree modules) {i j : Nat} (hparent : IsParent modules i j) :
    (ancestors modules j).card < (ancestors modules i).card := by
  refine Finset.card_lt_card (Finset.ssubset_iff_subset_ne.mpr ⟨fun k hk => ?_, fun heq => ?_⟩)
  · exact h.mem_ancestors.mpr (.head hparent (h.mem_ancestors.mp hk))
  · have hj : j ∈ ancestors modules i := h.mem_ancestors.mpr (.single hparent)
    exact h.acyclic j (h.mem_ancestors.mp (heq ▸ hj))

/-- The walk from a module does not meet one that is not above it, and ends within as many steps as
there are modules above. -/
theorem IsTree.comesBack_eq_false (h : IsTree modules) {start n i : Nat}
    (hstart : start ∉ ancestors modules i) (hn : (ancestors modules i).card ≤ n) :
    Links.comesBack (modules.map Module.parentModule) start n
      (Links.parent? (modules.map Module.parentModule) i) = false := by
  induction n generalizing i with
  | zero =>
    cases hparent : Links.parent? (modules.map Module.parentModule) i with
    | none => rfl
    | some j =>
      have hlt := h.card_ancestors_lt (isParent_iff.mpr hparent)
      omega
  | succ n ih =>
    cases hparent : Links.parent? (modules.map Module.parentModule) i with
    | none => rfl
    | some j =>
      have hparent := isParent_iff.mpr hparent
      have hlt := h.card_ancestors_lt hparent
      have hne : j ≠ start := by
        rintro rfl
        exact hstart (h.mem_ancestors.mpr (.single hparent))
      have habove : start ∉ ancestors modules j := fun hmem =>
        hstart (h.mem_ancestors.mpr (.head hparent (h.mem_ancestors.mp hmem)))
      rw [Links.comesBack, ih habove (by omega), Bool.or_false]
      simpa using hne

/-- In a tree the walk from a module to its root does not come back, so the links form a forest. -/
theorem IsTree.forest (h : IsTree modules) : Links.Forest (modules.map Module.parentModule) where
  nonempty := by simpa using h.nonempty
  inside := by
    intro link hlink
    obtain ⟨m, hm, rfl⟩ := List.mem_map.mp hlink
    obtain ⟨i, hi⟩ := List.getElem?_of_mem hm
    cases hparent : m.parentModule with
    | none => rfl
    | some j =>
      have hlt := h.inside i j ⟨m, hi, hparent⟩
      simpa [Links.leadsOut] using hlt
  ends := by
    intro i _
    refine h.comesBack_eq_false (fun hmem => h.acyclic i (h.mem_ancestors.mp hmem)) ?_
    classical
    rw [List.length_map]
    calc (ancestors modules i).card ≤ (Finset.range modules.length).card :=
          Finset.card_filter_le _ _
      _ = modules.length := Finset.card_range _

/-! ## Reactors are trees -/

/-- What is above a module is on the walk from its parent. -/
theorem exists_parent_of_transGen {r : Reactor} {i j : Nat}
    (h : Relation.TransGen (IsParent r.modules) i j) :
    ∃ p, r.parent? i = some p ∧ j ∈ r.chain p := by
  induction h using Relation.TransGen.head_induction_on with
  | single hparent =>
    exact ⟨j, isParent_iff_parent?.mp hparent, r.mem_chain_self j⟩
  | head hparent _ ih =>
    obtain ⟨p, hp, hmem⟩ := ih
    have hparent := isParent_iff_parent?.mp hparent
    refine ⟨_, hparent, ?_⟩
    rw [(r.chain_of_some (r.parent?_lt hparent) hp).1]
    exact List.mem_cons_of_mem _ hmem

/-- Only a module of the list has a parent. -/
theorem IsParent.lt {i j : Nat} (h : IsParent modules i j) : i < modules.length := by
  obtain ⟨m, hm, _⟩ := h
  exact (List.getElem?_eq_some_iff.mp hm).1

theorem isTree (r : Reactor) : IsTree r.modules where
  nonempty := by simpa using r.forest.nonempty
  inside := fun _ _ hparent => r.parent?_lt (isParent_iff_parent?.mp hparent)
  acyclic := by
    intro i hloop
    obtain ⟨j, hij, _⟩ := Relation.TransGen.head'_iff.mp hloop
    obtain ⟨p, hp, hmem⟩ := exists_parent_of_transGen hloop
    exact (r.chain_of_some hij.lt hp).2 hmem

theorem forest_iff_isTree : Links.Forest (modules.map Module.parentModule) ↔ IsTree modules :=
  ⟨fun h => isTree ⟨modules, h⟩, IsTree.forest⟩

/-- The reactor made of a list has the modules of the list. -/
theorem modules_of_ofModules {r : Reactor} (h : ofModules modules = .ok r) :
    r.modules = modules := by
  rw [ofModules] at h
  split at h
  · cases h
  · split at h
    · cases h
    · split at h
      · cases h
      · cases h
        rfl

/-- The checks accept the trees and no other lists. -/
theorem exists_ofModules_iff_isTree : (∃ r, ofModules modules = .ok r) ↔ IsTree modules := by
  rw [← forest_iff_isTree]
  constructor
  · rintro ⟨r, hr⟩
    exact modules_of_ofModules hr ▸ r.forest
  · intro h
    exact ⟨⟨modules, h⟩, ofModules_modules ⟨modules, h⟩⟩

/-! ## The walk from a module -/

/-- The walk from a module is the whole path to the top. -/
theorem ascends_chain (r : Reactor) {id : Nat} (hid : id < r.size) :
    Ascends r.modules id (r.chain id) := by
  induction hlength : (r.chain id).length using Nat.strongRecOn generalizing id with
  | ind length ih =>
    cases hparent : r.parent? id with
    | none =>
      rw [chain, r.chainUpTo_of_none hparent]
      refine .top fun j hj => ?_
      rw [isParent_iff_parent?, hparent] at hj
      cases hj
    | some p =>
      have hchain := (r.chain_of_some hid hparent).1
      rw [hchain] at hlength ⊢
      have hshorter : (r.chain p).length < length := by
        rw [← hlength, List.length_cons]
        omega
      exact .up (isParent_iff_parent?.mpr hparent) (ih _ hshorter (r.parent?_lt hparent) rfl)

/-- A module without a parent that is reached along the parents. -/
def IsTop (modules : List Module) (i top : Nat) : Prop :=
  Relation.ReflTransGen (IsParent modules) i top ∧ ∀ j, ¬ IsParent modules top j

theorem IsParent.unique {i j j' : Nat} (h : IsParent modules i j) (h' : IsParent modules i j') :
    j' = j := by
  rw [isParent_iff] at h h'
  exact Option.some.inj (h'.symm.trans h)

namespace Ascends

variable {i top : Nat} {path path' : List Nat}

/-- There is one path to the top. -/
theorem unique (h : Ascends modules i path) (h' : Ascends modules i path') : path' = path := by
  induction h generalizing path' with
  | top parentless =>
    cases h' with
    | top => rfl
    | up parent _ => exact absurd parent (parentless _)
  | up parent _ ih =>
    cases h' with
    | top parentless => exact absurd parent (parentless _)
    | up parent' rest' =>
      obtain rfl := parent.unique parent'
      rw [ih rest']

theorem head?_eq (h : Ascends modules i path) : path.head? = some i := by
  cases h <;> rfl

theorem ne_nil (h : Ascends modules i path) : path ≠ [] := by
  cases h <;> exact List.cons_ne_nil _ _

/-- The one top of a module is the end of its path. -/
theorem getLast?_eq_some_iff (h : Ascends modules i path) :
    path.getLast? = some top ↔ IsTop modules i top := by
  induction h with
  | top parentless =>
    rw [List.getLast?_singleton, Option.some.injEq]
    constructor
    · rintro rfl
      exact ⟨.refl, parentless⟩
    · rintro ⟨hreach, _⟩
      rcases Relation.ReflTransGen.cases_head hreach with heq | ⟨j, hj, _⟩
      · exact heq
      · exact absurd hj (parentless j)
  | up parent rest ih =>
    rw [List.getLast?_cons_of_ne_nil rest.ne_nil, ih]
    constructor
    · rintro ⟨hreach, hparentless⟩
      exact ⟨.head parent hreach, hparentless⟩
    · rintro ⟨hreach, hparentless⟩
      rcases Relation.ReflTransGen.cases_head hreach with rfl | ⟨j, hj, hrest⟩
      · exact absurd parent (hparentless _)
      · exact ⟨parent.unique hj ▸ hrest, hparentless⟩

end Ascends

/-- The lists that are accepted are the trees. In a reactor the chain of a module is the path to the
top: it has an end, no module is on it twice, and it leads from the module to its root, which has no
parent in the reactor. -/
theorem accepts_trees (modules : List Module) :
    ((∃ r, ofModules modules = .ok r) ↔ IsTree modules) ∧
      ∀ r, ofModules modules = .ok r → r.modules = modules ∧ ∀ id < modules.length,
        (∀ path, Ascends modules id path ↔ path = r.chain id) ∧
          (r.chain id).Nodup ∧ (r.chain id).length ≤ modules.length ∧
          (r.chain id).head? = some id ∧ (r.chain id).getLast? = some (r.root id) ∧
          (∀ top, IsTop modules id top ↔ top = r.root id) ∧ r.isRoot (r.root id) = true := by
  refine ⟨exists_ofModules_iff_isTree, fun r hr => ?_⟩
  obtain rfl := modules_of_ofModules hr
  refine ⟨rfl, fun id hid => ?_⟩
  have hascends := r.ascends_chain hid
  have hlast : (r.chain id).getLast? = some (r.root id) := by
    rw [root, List.getLastD_eq_getLast?]
    cases hlast : (r.chain id).getLast? with
    | none => exact absurd (List.getLast?_eq_none_iff.mp hlast) hascends.ne_nil
    | some top => rfl
  refine ⟨fun path => ⟨hascends.unique, fun heq => heq ▸ hascends⟩, r.nodup_chain hid,
    r.length_chain_le hid, hascends.head?_eq, hlast, fun top => ?_, ?_⟩
  · rw [← hascends.getLast?_eq_some_iff, hlast, Option.some.injEq, eq_comm]
  · rw [isRoot, r.parent?_root hid, Option.isNone_none]

/-- A module at the top, one below it, and between them in the list one below that. -/
def threeLevels : List Module :=
  [default, { (default : Module) with parentModule := some 2 },
    { (default : Module) with parentModule := some 0 }]

/-- The module in the middle of the list is at the bottom of the tree. -/
theorem accepts_threeLevels :
    IsTree threeLevels ∧ ∃ r, ofModules threeLevels = .ok r ∧ r.root 1 = 0 ∧
      Ascends threeLevels 1 [1, 2, 0] := by
  let r : Reactor := ⟨threeLevels, forest_of_checks nofun rfl rfl⟩
  have hr : ofModules threeLevels = .ok r := ofModules_modules r
  have hpath := ((accepts_trees threeLevels).2 r hr).2 1 (by decide)
  exact ⟨(accepts_trees threeLevels).1.mp ⟨r, hr⟩, r, hr, rfl, (hpath.1 [1, 2, 0]).mpr rfl⟩

end BuildAlign.Reactor
