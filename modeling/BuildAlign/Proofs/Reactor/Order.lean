import BuildAlign.Proofs.Reactor.Chain
import Mathlib.Data.List.Nodup
import Mathlib.Data.List.Perm.Subperm

/-!
The order in which modules are visited: all modules of the reactor, none twice. No walk to the root
comes back to a module, so the depth of a module is less than their number. What is gathered in this
order can be told apart by module again.
-/

namespace BuildAlign

/-- Of lists that are put together by a key, the elements with one key are one of the lists. -/
theorem filter_flatMap_of_key {α β : Type} [DecidableEq α] {key : β → α} {f : α → List β}
    (hkey : ∀ a, ∀ b ∈ f a, key b = a) {xs : List α} (hxs : xs.Nodup) {a : α} (ha : a ∈ xs) :
    (xs.flatMap f).filter (fun b => key b = a) = f a := by
  induction xs with
  | nil => exact absurd ha List.not_mem_nil
  | cons x later ih =>
    obtain ⟨hx, hlater⟩ := List.nodup_cons.mp hxs
    rw [List.flatMap_cons, List.filter_append]
    by_cases heq : x = a
    · have hrest : (later.flatMap f).filter (fun b => key b = a) = [] := by
        refine List.filter_eq_nil_iff.mpr fun b hb => ?_
        obtain ⟨a', ha', hb⟩ := List.mem_flatMap.mp hb
        simpa [hkey a' b hb] using fun h : a' = a => hx (heq ▸ h ▸ ha')
      have hfirst : (f x).filter (fun b => key b = a) = f x :=
        List.filter_eq_self.mpr fun b hb => by simp [hkey x b hb, heq]
      rw [hrest, hfirst, List.append_nil, heq]
    · have hfirst : (f x).filter (fun b => key b = a) = [] :=
        List.filter_eq_nil_iff.mpr fun b hb => by simp [hkey x b hb, heq]
      rw [hfirst, List.nil_append, ih hlater (List.mem_of_ne_of_mem (Ne.symm heq) ha)]

namespace Reactor

theorem lt_of_mem_order {r : Reactor} {id : Nat} (hid : id ∈ r.order) : id < r.size := by
  obtain ⟨depth, _, hid⟩ := List.mem_flatMap.mp hid
  exact List.mem_range.mp (List.mem_filter.mp hid).1

theorem nodup_order (r : Reactor) : r.order.Nodup := by
  refine List.nodup_flatMap.mpr ⟨fun depth _ => List.nodup_range.filter _, ?_⟩
  -- a module has one depth
  refine List.nodup_range.imp ?_
  intro depth depth' hne id hid hid'
  have hdepth : (r.chain id).length = depth + 1 := by simpa using (List.mem_filter.mp hid).2
  have hdepth' : (r.chain id).length = depth' + 1 := by simpa using (List.mem_filter.mp hid').2
  omega

/-! ## Every module is visited -/

variable (r : Reactor)

/-- A walk that ends is as long whatever the bound. -/
theorem chainUpTo_of_ends {start n id : Nat}
    (hends : Links.comesBack (r.modules.map Module.parentModule) start n (r.parent? id) = false)
    {m : Nat} (hm : n ≤ m) : r.chainUpTo m id = r.chainUpTo n id := by
  induction n generalizing m id with
  | zero =>
    cases hid : r.parent? id with
    | none => rw [r.chainUpTo_of_none hid, r.chainUpTo_of_none hid]
    | some p =>
      rw [hid] at hends
      exact absurd hends nofun
  | succ n ih =>
    cases hid : r.parent? id with
    | none => rw [r.chainUpTo_of_none hid, r.chainUpTo_of_none hid]
    | some p =>
      obtain ⟨m, rfl⟩ : ∃ k, m = k + 1 := ⟨m - 1, by omega⟩
      rw [hid, Links.comesBack, Bool.or_eq_false_iff, ← parent?_eq_links] at hends
      rw [r.chainUpTo_of_some hid, r.chainUpTo_of_some hid, ih hends.2 (by omega)]

theorem not_mem_chainUpTo {start n id : Nat} (hne : id ≠ start)
    (hends : Links.comesBack (r.modules.map Module.parentModule) start n (r.parent? id) = false) :
    start ∉ r.chainUpTo n id := by
  induction n generalizing id with
  | zero => simpa [chainUpTo] using hne.symm
  | succ n ih =>
    cases hid : r.parent? id with
    | none =>
      rw [r.chainUpTo_of_none hid]
      simpa using hne.symm
    | some p =>
      rw [hid, Links.comesBack, Bool.or_eq_false_iff, ← parent?_eq_links] at hends
      rw [r.chainUpTo_of_some hid, List.mem_cons, not_or]
      exact ⟨hne.symm, ih (by simpa using hends.1) hends.2⟩

/-- The walk goes on from the parent and does not come back. -/
theorem chain_of_some {id p : Nat} (hid : id < r.size) (hparent : r.parent? id = some p) :
    r.chain id = id :: r.chain p ∧ id ∉ r.chain p := by
  have hlength : (r.modules.map Module.parentModule).length = r.size := List.length_map _
  have hends := r.forest.ends id (List.mem_range.mpr (hlength ▸ hid))
  rw [hlength, ← parent?_eq_links, hparent] at hends
  obtain ⟨n, hn⟩ : ∃ n, r.size = n + 1 := ⟨r.size - 1, by omega⟩
  rw [hn, Links.comesBack, Bool.or_eq_false_iff, ← parent?_eq_links] at hends
  have hchain : r.chain p = r.chainUpTo n p := by
    rw [chain, hn, r.chainUpTo_of_ends hends.2 (Nat.le_succ n)]
  rw [hchain, chain, hn, r.chainUpTo_of_some hparent]
  exact ⟨rfl, r.not_mem_chainUpTo (by simpa using hends.1) hends.2⟩

/-- The root of a module is found link by link: it is the root of the parent, and a module without
one is its own. -/
theorem root_eq (id : Nat) :
    r.root id = match r.parent? id with
      | none => id
      | some p => r.root p := by
  cases hparent : r.parent? id with
  | none => rw [root, chain, r.chainUpTo_of_none hparent, List.getLastD_cons, List.getLastD_nil]
  | some p =>
    have hid : id < r.size := by
      rw [parent?, module] at hparent
      by_contra hout
      rw [List.getElem?_eq_none (Nat.le_of_not_lt hout)] at hparent
      cases hparent
    rw [root, (r.chain_of_some hid hparent).1, List.getLastD_cons]
    exact r.getLastD_chainUpTo r.size p id

theorem nodup_chain {id : Nat} (hid : id < r.size) : (r.chain id).Nodup := by
  induction hlength : (r.chain id).length using Nat.strongRecOn generalizing id with
  | ind length ih =>
    cases hparent : r.parent? id with
    | none =>
      rw [chain, r.chainUpTo_of_none hparent]
      exact List.nodup_singleton id
    | some p =>
      obtain ⟨hchain, hnot⟩ := r.chain_of_some hid hparent
      rw [hchain] at hlength ⊢
      have hshorter : (r.chain p).length < length := by
        rw [← hlength, List.length_cons]
        omega
      exact List.nodup_cons.mpr ⟨hnot, ih _ hshorter (r.parent?_lt hparent) rfl⟩

theorem length_chain_le {id : Nat} (hid : id < r.size) : (r.chain id).length ≤ r.size := by
  have hsubset : r.chain id ⊆ r.ids :=
    fun m hm => List.mem_range.mpr (r.lt_of_mem_chain hid hm)
  have hle := (List.subperm_of_subset (r.nodup_chain hid) hsubset).length_le
  rwa [ids, List.length_range] at hle

theorem mem_order {id : Nat} (hid : id < r.size) : id ∈ r.order := by
  have hle := r.length_chain_le hid
  have hpos : 0 < (r.chain id).length := List.length_pos_of_mem (r.root_mem_chain id)
  refine List.mem_flatMap.mpr ⟨(r.chain id).length - 1, List.mem_range.mpr (by omega), ?_⟩
  refine List.mem_filter.mpr ⟨List.mem_range.mpr hid, ?_⟩
  rw [beq_iff_eq]
  omega

theorem perm_order : r.order.Perm r.ids := by
  refine (List.perm_ext_iff_of_nodup r.nodup_order List.nodup_range).mpr fun id => ?_
  exact ⟨fun hid => List.mem_range.mpr (lt_of_mem_order hid),
    fun hid => r.mem_order (List.mem_range.mp hid)⟩

end Reactor

end BuildAlign
