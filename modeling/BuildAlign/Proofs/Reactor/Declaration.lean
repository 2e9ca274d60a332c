import BuildAlign.Reactor.Basic

/-!
What setting a property changes. The body that is changed is the one that a look-up finds, so the
new value is found in the same scope, and all other names are found as before.
-/

namespace BuildAlign

namespace Module

/-- The value of a name in a body, with the scope of the body. -/
def bodyProperty? (name : String) (e : Scope × Body) : Option (Scope × String) :=
  (e.2.properties.get? name).map (e.1, ·)

theorem ownProperty?_eq (m : Module) (name : String) :
    m.ownProperty? name = m.bodies.findSome? (bodyProperty? name) := rfl

def modifyIn (edit : Body → Body) (scope : Scope) (e : Scope × Body) : Scope × Body :=
  if e.1 = scope then (e.1, edit e.2) else e

theorem bodies_modifyBody (m : Module) (edit : Body → Body) (scope : Scope) :
    (m.modifyBody edit scope).bodies = m.bodies.map (modifyIn edit scope) := by
  cases scope with
  | main =>
    simp only [modifyBody, bodies, List.map_cons]
    refine congrArg _ (List.ext_getElem (by simp) fun j _ _ => ?_)
    simp [modifyIn]
  | profile i =>
    simp only [modifyBody, bodies, List.map_cons]
    refine congrArg _ (List.ext_getElem (by simp) fun j _ _ => ?_)
    by_cases hij : i = j
    · simp [modifyIn, hij]
    · simp [modifyIn, hij, Ne.symm hij]

/-- Changes that keep the properties of a body keep what a look-up finds. -/
theorem ownProperty?_modifyBody (m : Module) {edit : Body → Body}
    (hedit : ∀ b, (edit b).properties = b.properties) (scope : Scope) (name : String) :
    (m.modifyBody edit scope).ownProperty? name = m.ownProperty? name := by
  have hbody : bodyProperty? name ∘ modifyIn edit scope = bodyProperty? name := by
    funext e
    rw [Function.comp_apply, modifyIn]
    split
    · rw [bodyProperty?, hedit, bodyProperty?]
    · rfl
  rw [ownProperty?_eq, bodies_modifyBody, List.findSome?_map, hbody, ownProperty?_eq]

/-- A change of one body is seen in its scope and nowhere else. -/
theorem body?_modifyBody (m : Module) (edit : Body → Body) (scope scope' : Scope) :
    (m.modifyBody edit scope).body? scope' =
      if scope' = scope then (m.body? scope).map edit else m.body? scope' := by
  cases scope with
  | main => cases scope' <;> rfl
  | profile i =>
    cases scope' with
    | main => rfl
    | profile j =>
      simp only [modifyBody, body?, List.getElem?_modify, Scope.profile.injEq]
      by_cases hij : j = i
      · subst hij
        cases m.profiles[j]? <;> simp
      · simp [hij, Ne.symm hij]

/-- Changes that keep the properties of a body keep the values in every scope. -/
theorem property?_modifyBody (m : Module) {edit : Body → Body}
    (hedit : ∀ b, (edit b).properties = b.properties) (scope scope' : Scope) (name : String) :
    (m.modifyBody edit scope).property? scope' name = m.property? scope' name := by
  rw [property?, body?_modifyBody, property?]
  split
  · rename_i heq
    rw [heq]
    cases m.body? scope with
    | none => rfl
    | some b => exact congrArg (Table.get? · name) (hedit b)
  · rfl

/-- A body in which a property is set if it is the body of the given scope. -/
def setInScope (scope : Scope) (name value : String) (e : Scope × Body) : Scope × Body :=
  if e.1 = scope then (e.1, { e.2 with properties := e.2.properties.insert name value }) else e

theorem setInScope_of_ne {scope scope' : Scope} (hne : scope' ≠ scope) (name value : String)
    (body : Body) : setInScope scope name value (scope', body) = (scope', body) :=
  if_neg hne

theorem bodies_setProperty (m : Module) (scope : Scope) (name value : String) :
    (m.setProperty scope name value).bodies = m.bodies.map (setInScope scope name value) :=
  m.bodies_modifyBody _ scope

theorem bodyProperty?_setInScope (scope : Scope) (name name' value : String) (e : Scope × Body) :
    bodyProperty? name' (setInScope scope name value e) =
      if name' = name ∧ e.1 = scope then some (scope, value) else bodyProperty? name' e := by
  by_cases hscope : e.1 = scope
  · rw [setInScope, if_pos hscope, bodyProperty?, Table.get?_insert]
    by_cases hname : name' = name
    · rw [if_pos hname, if_pos ⟨hname, hscope⟩, ← hscope]
      rfl
    · rw [if_neg hname, if_neg fun h => hname h.1]
      rfl
  · rw [setInScope_of_ne hscope, if_neg fun h => hscope h.2]

theorem ownProperty?_setProperty_of_ne (m : Module) (scope : Scope) {name name' : String}
    (hne : name' ≠ name) (value : String) :
    (m.setProperty scope name value).ownProperty? name' = m.ownProperty? name' := by
  have hbody : bodyProperty? name' ∘ setInScope scope name value = bodyProperty? name' := by
    funext e
    exact (bodyProperty?_setInScope scope name name' value e).trans (if_neg fun h => hne h.1)
  rw [ownProperty?_eq, bodies_setProperty, List.findSome?_map, hbody, ownProperty?_eq]

/-- The scope that a look-up finds is found again with the value that is set there. -/
theorem findSome?_setInScope {bodies : List (Scope × Body)} {scope : Scope} {name old : String}
    (hold : bodies.findSome? (bodyProperty? name) = some (scope, old)) (value : String) :
    (bodies.map (setInScope scope name value)).findSome? (bodyProperty? name) =
      some (scope, value) := by
  induction bodies with
  | nil => exact absurd hold nofun
  | cons e later ih =>
    rw [List.map_cons, List.findSome?_cons, bodyProperty?_setInScope]
    by_cases hscope : e.1 = scope
    · rw [if_pos ⟨rfl, hscope⟩]
    · rw [if_neg fun h => hscope h.2]
      rw [List.findSome?_cons] at hold
      cases hbody : bodyProperty? name e with
      | none =>
        rw [hbody] at hold
        exact ih hold
      | some found =>
        rw [hbody] at hold
        obtain rfl : found = (scope, old) := Option.some.inj hold
        obtain ⟨_, _, heq⟩ := Option.map_eq_some_iff.mp hbody
        exact absurd (congrArg Prod.fst heq) hscope

theorem ownProperty?_setProperty {m : Module} {scope : Scope} {name old : String}
    (hold : m.ownProperty? name = some (scope, old)) (value : String) :
    (m.setProperty scope name value).ownProperty? name = some (scope, value) := by
  rw [ownProperty?_eq, bodies_setProperty]
  exact findSome?_setInScope hold value

theorem ownProperty?_setProperty_main (m : Module) (name value : String) :
    (m.setProperty .main name value).ownProperty? name = some (.main, value) := by
  rw [ownProperty?_eq, bodies_setProperty, bodies, List.map_cons, List.findSome?_cons,
    bodyProperty?_setInScope, if_pos ⟨rfl, rfl⟩]

theorem body?_of_mem_bodies {m : Module} {e : Scope × Body} (he : e ∈ m.bodies) :
    m.body? e.1 = some e.2 := by
  rcases List.mem_cons.mp he with rfl | he
  · rfl
  · obtain ⟨i, hi, rfl⟩ := List.mem_mapIdx.mp he
    rw [body?, List.getElem?_eq_getElem hi]
    rfl

/-- The value that a look-up finds is the value in the scope where it is found. -/
theorem property?_of_ownProperty? {m : Module} {scope : Scope} {name value : String}
    (h : m.ownProperty? name = some (scope, value)) : m.property? scope name = some value := by
  obtain ⟨e, he, hbody⟩ := List.exists_of_findSome?_eq_some h
  obtain ⟨found, hfound, heq⟩ := Option.map_eq_some_iff.mp hbody
  obtain ⟨rfl, rfl⟩ := Prod.mk.inj heq
  rw [property?, body?_of_mem_bodies he]
  exact hfound

/-- Setting a property changes no value but the one that is set. -/
theorem property?_setProperty_cases (m : Module) (scope scope' : Scope)
    (name name' value : String) :
    (m.setProperty scope name value).property? scope' name' = m.property? scope' name' ∨
      scope' = scope ∧ name' = name ∧
        (m.setProperty scope name value).property? scope' name' = some value := by
  rw [setProperty, property?, body?_modifyBody, property?]
  by_cases hscope : scope' = scope
  · subst hscope
    rw [if_pos rfl]
    cases m.body? scope' with
    | none => exact .inl rfl
    | some b =>
      simp only [Option.map_some, Option.bind_some, Table.get?_insert]
      by_cases hname : name' = name
      · exact .inr ⟨trivial, hname, if_pos hname⟩
      · exact .inl (if_neg hname)
  · exact .inl (by rw [if_neg hscope])

theorem property?_main_of_ownProperty?_eq_none {m : Module} {name : String}
    (h : m.ownProperty? name = none) : m.property? .main name = none := by
  have hmain := List.findSome?_eq_none_iff.mp h (.main, m.body) (List.mem_cons_self ..)
  exact Option.map_eq_none_iff.mp hmain

end Module

end BuildAlign
