import BuildAlign.Proofs.Reactor.WellFounded
import Mathlib.Data.Prod.Lex

/-!
What is visited before what. The order of visits is sorted by depth and then by index, and as it
holds every module once, this decides of any two modules which one comes first. An ancestor is less
deep than its descendants, so it is visited before them, wherever the two stand in the list.
-/

namespace BuildAlign

/-- In a list that is sorted by a strict order of its elements, the order decides which of two comes
first. -/
theorem idxOf_lt_of_pairwise {α : Type} [DecidableEq α] {R : α → α → Prop}
    (hasymm : ∀ a b, R a b → ¬ R b a) {xs : List α} (hxs : xs.Pairwise R) {a b : α}
    (ha : a ∈ xs) (hb : b ∈ xs) (hab : R a b) : xs.idxOf a < xs.idxOf b := by
  by_contra hnot
  have halt := List.idxOf_lt_length_iff.mpr ha
  have hblt := List.idxOf_lt_length_iff.mpr hb
  rcases Nat.lt_or_eq_of_le (Nat.le_of_not_lt hnot) with hlt | heq
  · have hba := List.pairwise_iff_getElem.mp hxs _ _ hblt halt hlt
    rw [List.getElem_idxOf, List.getElem_idxOf] at hba
    exact hasymm a b hab hba
  · obtain rfl := (List.idxOf_inj hb).mp heq
    exact hasymm b b hab hab

namespace Reactor

variable (r : Reactor)

/-- Module `i` is less deep in the tree than module `j`, or as deep and further to the front of the
list. -/
def Above (i j : Nat) : Prop :=
  (r.chain i).length < (r.chain j).length ∨ (r.chain i).length = (r.chain j).length ∧ i < j

theorem Above.asymm {i j : Nat} (h : r.Above i j) : ¬ r.Above j i := by
  rw [Above] at h ⊢
  omega

theorem above_of_ne {i j : Nat} (hne : i ≠ j) : r.Above i j ∨ r.Above j i := by
  rw [Above, Above]
  omega

/-- The order of visits is sorted by depth, and by index within a depth. -/
theorem pairwise_order : r.order.Pairwise r.Above := by
  have hdepth : ∀ depth, ∀ id ∈ r.ids.filter (fun id => (r.chain id).length == depth + 1),
      (r.chain id).length = depth + 1 := by
    intro depth id hid
    simpa using (List.mem_filter.mp hid).2
  refine List.pairwise_flatMap.mpr ⟨fun depth _ => ?_, ?_⟩
  · refine (List.pairwise_lt_range.filter _).imp_of_mem fun {i j} hi hj hlt => ?_
    exact .inr ⟨(hdepth depth i hi).trans (hdepth depth j hj).symm, hlt⟩
  · refine List.pairwise_lt_range.imp fun {depth depth'} hlt i hi j hj => .inl ?_
    rw [hdepth depth i hi, hdepth depth' j hj]
    omega

/-- Whether a module comes first when modules are compared by the pair of depth and index. -/
def comesFirst (i j : Nat) : Bool :=
  decide (toLex ((r.chain i).length, i) ≤ toLex ((r.chain j).length, j))

/-- The order of visits is the list of all modules, sorted by the pair of depth and index. -/
theorem order_eq_mergeSort : r.order = r.ids.mergeSort r.comesFirst := by
  have htrans : ∀ i j k, r.comesFirst i j = true → r.comesFirst j k = true →
      r.comesFirst i k = true := by
    intro i j k hij hjk
    exact decide_eq_true ((of_decide_eq_true hij).trans (of_decide_eq_true hjk))
  have htotal : ∀ i j, (r.comesFirst i j || r.comesFirst j i) = true := by
    intro i j
    simpa [comesFirst] using le_total (toLex ((r.chain i).length, i)) _
  have hperm := List.mergeSort_perm r.ids r.comesFirst
  have hnodup := hperm.nodup_iff.mpr List.nodup_range
  have habove : (r.ids.mergeSort r.comesFirst).Pairwise r.Above := by
    refine (List.pairwise_mergeSort htrans htotal r.ids).imp₂ (fun i j hle hne => ?_) hnodup
    rw [comesFirst, decide_eq_true_iff, Prod.Lex.toLex_le_toLex] at hle
    rw [Above]
    omega
  exact List.Perm.eq_of_pairwise (fun i j _ _ hij hji => absurd hji (Above.asymm r hij))
    r.pairwise_order habove (r.perm_order.trans hperm.symm)

/-- Of two modules the one that is above the other is visited first. -/
theorem idxOf_order_lt_iff {i j : Nat} (hi : i < r.size) (hj : j < r.size) :
    r.order.idxOf i < r.order.idxOf j ↔ r.Above i j := by
  have hfirst : ∀ {i j : Nat}, i < r.size → j < r.size → r.Above i j →
      r.order.idxOf i < r.order.idxOf j := fun hi hj =>
    idxOf_lt_of_pairwise (fun _ _ => Above.asymm r) r.pairwise_order (r.mem_order hi)
      (r.mem_order hj)
  refine ⟨fun hlt => ?_, hfirst hi hj⟩
  have hne : i ≠ j := by
    rintro rfl
    exact Nat.lt_irrefl _ hlt
  refine (r.above_of_ne hne).resolve_right fun habove => ?_
  exact Nat.lt_asymm hlt (hfirst hj hi habove)

/-- An ancestor is less deep than the module. -/
theorem length_chain_lt_of_transGen {i j : Nat}
    (h : Relation.TransGen (IsParent r.modules) i j) :
    (r.chain j).length < (r.chain i).length := by
  have hparent : ∀ {i j : Nat}, IsParent r.modules i j →
      (r.chain j).length < (r.chain i).length := by
    intro i j h
    rw [(r.chain_of_some h.lt (isParent_iff_parent?.mp h)).1, List.length_cons]
    exact Nat.lt_succ_self _
  induction h with
  | single h => exact hparent h
  | tail _ h ih => exact (hparent h).trans ih

/-- Every module is visited, and once. All ancestors of a module are visited before it, modules
further from the top after those that are nearer, and modules equally far in the order of the list.
-/
theorem order_parents_first :
    r.order.Perm (List.range r.size) ∧
      (∀ i j, Relation.TransGen (IsParent r.modules) i j →
        r.order.idxOf j < r.order.idxOf i) ∧
      ∀ i < r.size, ∀ j < r.size, ∀ path path',
        Ascends r.modules i path → Ascends r.modules j path' →
          (path.length < path'.length → r.order.idxOf i < r.order.idxOf j) ∧
          (path.length = path'.length → (r.order.idxOf i < r.order.idxOf j ↔ i < j)) := by
  refine ⟨r.perm_order, fun i j hancestor => ?_, fun i hi j hj path path' hpath hpath' => ?_⟩
  · obtain ⟨p, hparent, hmem⟩ := exists_parent_of_transGen hancestor
    have hi : i < r.size := (isParent_iff_parent?.mpr hparent).lt
    have hj : j < r.size := r.lt_of_mem_chain (r.parent?_lt hparent) hmem
    exact (r.idxOf_order_lt_iff hj hi).mpr (.inl (r.length_chain_lt_of_transGen hancestor))
  · obtain rfl := (r.ascends_chain hi).unique hpath
    obtain rfl := (r.ascends_chain hj).unique hpath'
    rw [r.idxOf_order_lt_iff hi hj, Above]
    constructor <;> omega

/-- Two trees of two modules each. The first module of the list has a parent behind it. -/
def twoTrees : Reactor where
  modules := [{ (default : Module) with parentModule := some 2 }, default, default,
    { (default : Module) with parentModule := some 1 }]
  forest := forest_of_checks (by simp) (by decide) (by decide)

/-- The parent comes before the first module, and so does the root of the other tree. -/
theorem order_parents_first_twoTrees :
    Relation.TransGen (IsParent twoTrees.modules) 0 2 ∧
      twoTrees.order.idxOf 2 < twoTrees.order.idxOf 0 ∧
      twoTrees.order.idxOf 1 < twoTrees.order.idxOf 0 ∧
      twoTrees.order.idxOf 0 < twoTrees.order.idxOf 3 := by
  obtain ⟨_, hancestors, hpaths⟩ := twoTrees.order_parents_first
  have hparent : Relation.TransGen (IsParent twoTrees.modules) 0 2 := .single ⟨_, rfl, rfl⟩
  have hpath : ∀ id < twoTrees.size, Ascends twoTrees.modules id (twoTrees.chain id) :=
    fun id hid => twoTrees.ascends_chain hid
  have hfirst : 0 < twoTrees.size := by decide
  have hsecond : 1 < twoTrees.size := by decide
  have hlast : 3 < twoTrees.size := by decide
  refine ⟨hparent, hancestors 0 2 hparent, ?_, ?_⟩
  · exact (hpaths 1 hsecond 0 hfirst _ _ (hpath 1 hsecond) (hpath 0 hfirst)).1 (by decide)
  · exact ((hpaths 0 hfirst 3 hlast _ _ (hpath 0 hfirst) (hpath 3 hlast)).2 (by decide)).mpr
      (by decide)

example : twoTrees.order = [1, 2, 0, 3] := by decide

end Reactor

end BuildAlign
