import BuildAlign.Reactor.Basic

/-!
Walks to the root. The links of a reactor form a forest, so the walk from a module ends at a module
without a parent, and every other module on it has one. Changes of what modules declare leave all
walks as they are.
-/

namespace BuildAlign.Reactor

/-! ## Where a walk ends -/

variable (r : Reactor)

theorem parent?_eq_links (id : Nat) :
    r.parent? id = Links.parent? (r.modules.map Module.parentModule) id := by
  rw [parent?, module, Links.parent?, List.getElem?_map]
  cases r.modules[id]? <;> rfl

theorem chainUpTo_of_none {id : Nat} (hid : r.parent? id = none) (n : Nat) :
    r.chainUpTo n id = [id] := by
  cases n with
  | zero => rfl
  | succ n => rw [chainUpTo, hid]

theorem chainUpTo_of_some {id p : Nat} (hid : r.parent? id = some p) (n : Nat) :
    r.chainUpTo (n + 1) id = id :: r.chainUpTo n p := by
  rw [chainUpTo, hid]

theorem getLastD_chainUpTo (n id a : Nat) :
    (r.chainUpTo n id).getLastD a = (r.chainUpTo n id).getLastD id := by
  cases n <;> simp only [chainUpTo, List.getLastD_cons]

/-- A walk that does not come back ends at a module without a parent. -/
theorem parent?_getLastD_chainUpTo {start n id : Nat}
    (hends : Links.comesBack (r.modules.map Module.parentModule) start n (r.parent? id) = false) :
    r.parent? ((r.chainUpTo n id).getLastD id) = none := by
  induction n generalizing id with
  | zero =>
    cases hid : r.parent? id with
    | none => exact hid
    | some p =>
      rw [hid] at hends
      exact absurd hends nofun
  | succ n ih =>
    cases hid : r.parent? id with
    | none =>
      rw [chainUpTo_of_none r hid]
      exact hid
    | some p =>
      rw [hid, Links.comesBack, Bool.or_eq_false_iff, ← parent?_eq_links] at hends
      rw [chainUpTo_of_some r hid, List.getLastD_cons, getLastD_chainUpTo]
      exact ih hends.2

theorem parent?_root {id : Nat} (hid : id < r.size) : r.parent? (r.root id) = none := by
  have hlength : (r.modules.map Module.parentModule).length = r.size := List.length_map _
  have hends := r.forest.ends id (List.mem_range.mpr (hlength ▸ hid))
  rw [hlength, ← parent?_eq_links] at hends
  exact parent?_getLastD_chainUpTo r hends

theorem mem_chain_self (id : Nat) : id ∈ r.chain id := by
  rw [chain]
  cases r.size <;> simp [chainUpTo]

theorem root_mem_chain (id : Nat) : r.root id ∈ r.chain id := by
  have hne : r.chain id ≠ [] := List.ne_nil_of_mem (r.mem_chain_self id)
  rw [root, List.getLastD_eq_getLast?, List.getLast?_eq_some_getLast hne]
  exact List.getLast_mem hne

theorem parent?_lt {id p : Nat} (hid : r.parent? id = some p) : p < r.size := by
  rw [parent?_eq_links, Links.parent?, Option.join_eq_some_iff] at hid
  have hinside := r.forest.inside (some p) (List.mem_of_getElem? hid)
  simpa [Links.leadsOut, size] using hinside

/-- A walk that starts in the reactor stays in it. -/
theorem lt_of_mem_chain {id m : Nat} (hid : id < r.size) (hm : m ∈ r.chain id) : m < r.size := by
  have hupTo : ∀ n id, id < r.size → m ∈ r.chainUpTo n id → m < r.size := by
    intro n
    induction n with
    | zero =>
      intro id hid hm
      rwa [List.mem_singleton.mp hm]
    | succ n ih =>
      intro id hid hm
      cases hparent : r.parent? id with
      | none =>
        rw [chainUpTo_of_none r hparent] at hm
        rwa [List.mem_singleton.mp hm]
      | some p =>
        rw [chainUpTo_of_some r hparent] at hm
        rcases List.mem_cons.mp hm with rfl | hm
        · exact hid
        · exact ih p (r.parent?_lt hparent) hm
  exact hupTo r.size id hid hm

theorem root_lt {id : Nat} (hid : id < r.size) : r.root id < r.size :=
  r.lt_of_mem_chain hid (r.root_mem_chain id)

/-! ## Searching a chain -/

section

variable {α : Type} {r} {f f' : Nat → Option α}

/-- A search that finds something finds what becomes of it, if what is found anew is so only at
roots. -/
theorem findSome?_chainUpTo_of_some {g : α → α}
    (hroots : ∀ m, f m = none → r.parent? m ≠ none → f' m = none)
    (hchanged : ∀ m a, f m = some a → f' m = some (g a)) {n id : Nat} {a : α}
    (ha : (r.chainUpTo n id).findSome? f = some a) :
    (r.chainUpTo n id).findSome? f' = some (g a) := by
  induction n generalizing id with
  | zero =>
    rw [chainUpTo, List.findSome?_singleton] at ha ⊢
    exact hchanged id a ha
  | succ n ih =>
    cases hid : r.parent? id with
    | none =>
      rw [chainUpTo_of_none r hid, List.findSome?_singleton] at ha ⊢
      exact hchanged id a ha
    | some p =>
      rw [chainUpTo_of_some r hid, List.findSome?_cons] at ha ⊢
      cases hf : f id with
      | some b =>
        rw [hf] at ha
        obtain rfl : b = a := Option.some.inj ha
        rw [hchanged id b hf]
      | none =>
        -- nothing is found here, and as this is no root nothing is found anew
        rw [hf] at ha
        rw [hroots id hf (by simp [hid])]
        exact ih ha

theorem findSome?_chain_of_some {g : α → α}
    (hroots : ∀ m, f m = none → r.parent? m ≠ none → f' m = none)
    (hchanged : ∀ m a, f m = some a → f' m = some (g a)) {id : Nat} {a : α}
    (ha : (r.chain id).findSome? f = some a) : (r.chain id).findSome? f' = some (g a) :=
  findSome?_chainUpTo_of_some hroots hchanged ha

/-- A search that finds nothing finds what is found anew at the root, if anything is. -/
theorem findSome?_chainUpTo_of_none
    (hroots : ∀ m, f m = none → r.parent? m ≠ none → f' m = none) {n id : Nat} {found : Option α}
    (hnone : (r.chainUpTo n id).findSome? f = none)
    (hroot : f' ((r.chainUpTo n id).getLastD id) = found) :
    (r.chainUpTo n id).findSome? f' = found := by
  induction n generalizing id with
  | zero => rwa [chainUpTo, List.findSome?_singleton]
  | succ n ih =>
    cases hid : r.parent? id with
    | none =>
      rw [chainUpTo_of_none r hid] at hroot ⊢
      rwa [List.findSome?_singleton]
    | some p =>
      rw [chainUpTo_of_some r hid] at hnone hroot ⊢
      obtain ⟨hf, hnone⟩ := List.findSome?_eq_none_iff.mp hnone |> List.forall_mem_cons.mp
      rw [List.getLastD_cons, getLastD_chainUpTo] at hroot
      rw [List.findSome?_cons, hroots id hf (by simp [hid])]
      exact ih (List.findSome?_eq_none_iff.mpr hnone) hroot

theorem findSome?_chain_of_none (hroots : ∀ m, f m = none → r.parent? m ≠ none → f' m = none)
    {id : Nat} {found : Option α} (hnone : (r.chain id).findSome? f = none)
    (hroot : f' (r.root id) = found) : (r.chain id).findSome? f' = found :=
  findSome?_chainUpTo_of_none hroots hnone hroot

end

/-! ## Changes that keep the links -/

/-- Two reactors with the same modules as far as the links go. -/
structure SameLinks (r r' : Reactor) : Prop where
  size : r'.size = r.size
  parent : ∀ id, r'.parent? id = r.parent? id

/-- The walk to the root depends on the links alone. -/
theorem SameLinks.chain {r r' : Reactor} (h : SameLinks r r') (id : Nat) :
    r'.chain id = r.chain id := by
  have hupTo : ∀ n id, r'.chainUpTo n id = r.chainUpTo n id := by
    intro n
    induction n with
    | zero => exact fun _ => rfl
    | succ n ih =>
      intro id
      rw [chainUpTo, chainUpTo, h.parent id]
      cases r.parent? id with
      | none => rfl
      | some p => exact congrArg (id :: ·) (ih p)
  rw [Reactor.chain, Reactor.chain, h.size, hupTo]

theorem SameLinks.root {r r' : Reactor} (h : SameLinks r r') (id : Nat) : r'.root id = r.root id := by
  rw [Reactor.root, Reactor.root, h.chain]

/-- The modules are visited in the same order. -/
theorem SameLinks.order {r r' : Reactor} (h : SameLinks r r') : r'.order = r.order := by
  rw [Reactor.order, Reactor.order, ids, ids, h.size]
  simp only [h.chain]

/-- A reactor is its modules. -/
theorem eq_of_module {r r' : Reactor} (hsize : r'.size = r.size)
    (hmodule : ∀ id < r.size, r'.module id = r.module id) : r' = r := by
  have hmodules : r'.modules = r.modules := by
    refine List.ext_getElem hsize fun id hid' hid => ?_
    have hsame := hmodule id hid
    rwa [module, module, List.getElem?_eq_getElem hid', List.getElem?_eq_getElem hid] at hsame
  cases r
  cases r'
  cases hmodules
  rfl

/-- A change of one module is seen at its index and nowhere else. -/
theorem module_modify {id : Nat} (hid : id < r.size) (edit : Module → Module)
    (keeps : ∀ m, (edit m).parentModule = m.parentModule) (id' : Nat) :
    (r.modify id edit keeps).module id' =
      if id' = id then edit (r.module id) else r.module id' := by
  simp only [module, modify, List.getElem?_modify]
  by_cases heq : id' = id
  · subst heq
    rw [if_pos rfl, List.getElem?_eq_getElem hid]
    simp
  · have hne : ¬ id = id' := fun h => heq h.symm
    rw [if_neg heq]
    simp [hne]

theorem sameLinks_modify {id : Nat} (hid : id < r.size) (edit : Module → Module)
    (keeps : ∀ m, (edit m).parentModule = m.parentModule) :
    SameLinks r (r.modify id edit keeps) where
  size := by simp [size, modify]
  parent := by
    intro id'
    rw [parent?, parent?, module_modify r hid]
    split
    · rename_i heq
      rw [keeps, heq]
    · rfl

theorem module_setProperty {id : Nat} (hid : id < r.size) (scope : Scope) (name value : String)
    (id' : Nat) : (r.setProperty id scope name value).module id' =
      if id' = id then (r.module id).setProperty scope name value else r.module id' :=
  r.module_modify hid _ _ id'

/-- An edit changes no module but the one that is named, if there is such a module. -/
theorem module_modify_cases (id : Nat) (edit : Module → Module)
    (keeps : ∀ m, (edit m).parentModule = m.parentModule) (id' : Nat) :
    (r.modify id edit keeps).module id' = r.module id' ∨
      id' = id ∧ (r.modify id edit keeps).module id' = edit (r.module id') := by
  by_cases hid : id < r.size
  · rw [r.module_modify hid]
    by_cases heq : id' = id
    · exact .inr ⟨heq, by rw [if_pos heq, heq]⟩
    · exact .inl (if_neg heq)
  · have hsame : r.modules.modify id edit = r.modules := List.modify_eq_self (Nat.le_of_not_lt hid)
    left
    simp only [module, modify, hsame]

theorem module_setProperty_cases (id : Nat) (scope : Scope) (name value : String) (id' : Nat) :
    (r.setProperty id scope name value).module id' = r.module id' ∨
      id' = id ∧ (r.setProperty id scope name value).module id' =
        (r.module id').setProperty scope name value :=
  r.module_modify_cases id _ _ id'

theorem module_setSlot {id : Nat} (hid : id < r.size) (a : Address) (version : String) (id' : Nat) :
    (r.setSlot id a version).module id' =
      if id' = id then (r.module id).setSlot a version else r.module id' :=
  r.module_modify hid _ _ id'

theorem sameLinks_setProperty {id : Nat} (hid : id < r.size) (scope : Scope) (name value : String) :
    SameLinks r (r.setProperty id scope name value) :=
  r.sameLinks_modify hid _ _

end BuildAlign.Reactor
