import BuildAlign.Proofs.Reactor.Frame

/-!
Reactors in which some texts are replaced. Two reactors differ only in wording if they have the same
modules, declarations and properties, and every version text or property value is the same in both
or replaced by a related text. A look-up then finds the same text or one that replaces it, and what
is replaced is the value of the nearest declaration.
-/

namespace BuildAlign

/-! ## Texts -/

/-- A text that may be missing is the same as before, or it replaces a related one. -/
def Replaced (Q : String → String → Prop) (old new : Option String) : Prop :=
  new = old ∨ ∃ a b, old = some a ∧ new = some b ∧ Q a b

namespace Replaced

variable {Q Q' : String → String → Prop} {old mid new : Option String}

theorem mono (hQ : ∀ a b, Q a b → Q' a b) (h : Replaced Q old new) : Replaced Q' old new :=
  h.imp_right fun ⟨a, b, hold, hnew, hab⟩ => ⟨a, b, hold, hnew, hQ a b hab⟩

theorem trans (hQ : ∀ a b c, Q a b → Q b c → Q a c) (h : Replaced Q old mid)
    (h' : Replaced Q mid new) : Replaced Q old new := by
  rcases h with rfl | ⟨a, b, hold, hmid, hab⟩
  · exact h'
  · rcases h' with rfl | ⟨b', c, hmid', hnew, hbc⟩
    · exact .inr ⟨a, b, hold, hmid, hab⟩
    · obtain rfl : b = b' := Option.some.inj (hmid.symm.trans hmid')
      exact .inr ⟨a, c, hold, hnew, hQ a b c hab hbc⟩

end Replaced

/-- A search finds the same as before, or what replaces it. -/
theorem findSome?_reworded {α β : Type} {Q : α → β → β → Prop} {f g : α → Option β} {l : List α}
    (h : ∀ a ∈ l, g a = f a ∨ ∃ x y, f a = some x ∧ g a = some y ∧ Q a x y) :
    l.findSome? g = l.findSome? f ∨
      ∃ a ∈ l, ∃ x y, l.findSome? f = some x ∧ l.findSome? g = some y ∧ Q a x y := by
  induction l with
  | nil => exact .inl rfl
  | cons a later ih =>
    obtain ⟨ha, hlater⟩ := List.forall_mem_cons.mp h
    rw [List.findSome?_cons, List.findSome?_cons]
    rcases ha with hsame | ⟨x, y, hx, hy, hxy⟩
    · rw [hsame]
      cases hf : f a with
      | some x => exact .inl rfl
      | none =>
        refine (ih hlater).imp_right ?_
        rintro ⟨b, hb, hfound⟩
        exact ⟨b, List.mem_cons_of_mem _ hb, hfound⟩
    · rw [hx, hy]
      exact .inr ⟨a, List.mem_cons_self .., x, y, rfl, rfl, hxy⟩

/-! ## Modules -/

namespace Module

/-- Two modules that differ at most in version texts of declarations and in values of properties,
each of which is the same or replaces a related one. -/
structure Reworded (Q : String → String → Prop) (m m' : Module) : Prop where
  part : ∀ part : ProjectPart, part.of m' = part.of m
  parentModule : m'.parentModule = m.parentModule
  scopes : m'.bodies.map Prod.fst = m.bodies.map Prod.fst
  property : ∀ scope name, Replaced Q (m.property? scope name) (m'.property? scope name)
  declarations : ∃ version : Declaration → Option String,
    m'.declarations = m.declarations.map (fun d => { d with version := version d }) ∧
      ∀ d ∈ m.declarations, Replaced Q d.version (version d)

variable {Q Q' : String → String → Prop} {m m' m'' : Module}

namespace Reworded

theorem refl (m : Module) : m.Reworded Q m :=
  ⟨fun _ => rfl, rfl, rfl, fun _ _ => .inl rfl,
    Declaration.version, (List.map_id _).symm, fun _ _ => .inl rfl⟩

theorem mono (hQ : ∀ a b, Q a b → Q' a b) (h : m.Reworded Q m') : m.Reworded Q' m' :=
  let ⟨version, hlist, hversion⟩ := h.declarations
  { h with
    property := fun scope name => (h.property scope name).mono hQ
    declarations := ⟨version, hlist, fun d hd => (hversion d hd).mono hQ⟩ }

theorem trans (hQ : ∀ a b c, Q a b → Q b c → Q a c) (h : m.Reworded Q m')
    (h' : m'.Reworded Q m'') : m.Reworded Q m'' where
  part part := (h'.part part).trans (h.part part)
  parentModule := h'.parentModule.trans h.parentModule
  scopes := h'.scopes.trans h.scopes
  property scope name := (h.property scope name).trans hQ (h'.property scope name)
  declarations := by
    obtain ⟨version, hlist, hversion⟩ := h.declarations
    obtain ⟨version', hlist', hversion'⟩ := h'.declarations
    refine ⟨fun d => version' { d with version := version d }, ?_, fun d hd => ?_⟩
    · rw [hlist', hlist, List.map_map]
      rfl
    · exact (hversion d hd).trans hQ (hversion' _ (hlist ▸ List.mem_map_of_mem hd))

/-- Every declaration is found again at its address. -/
theorem declaration (h : m.Reworded Q m') {d : Declaration} (hd : d ∈ m.declarations) :
    ∃ d' ∈ m'.declarations, d'.address = d.address ∧ Replaced Q d.version d'.version := by
  obtain ⟨version, hlist, hversion⟩ := h.declarations
  exact ⟨{ d with version := version d }, hlist ▸ List.mem_map_of_mem hd, rfl, hversion d hd⟩

end Reworded

/-- A property is looked for in one scope after the other. -/
theorem ownProperty?_eq_scopes (m : Module) (name : String) :
    m.ownProperty? name =
      (m.bodies.map Prod.fst).findSome? fun scope => (m.property? scope name).map (scope, ·) := by
  rw [ownProperty?_eq, List.findSome?_map]
  have hbody : ∀ e ∈ m.bodies,
      bodyProperty? name e = (m.property? e.1 name).map (e.1, ·) := by
    intro e he
    rw [property?, body?_of_mem_bodies he]
    rfl
  refine (findSome?_reworded (Q := fun _ _ _ => False) fun e he =>
    .inl (hbody e he)).resolve_right ?_
  rintro ⟨_, _, _, _, _, _, hfalse⟩
  exact hfalse

/-- A module declares a property in the same scope; its value is the old one or may replace it. -/
theorem Reworded.ownProperty? (h : m.Reworded Q m') (name : String) :
    m'.ownProperty? name = m.ownProperty? name ∨
      ∃ scope a b, m.ownProperty? name = some (scope, a) ∧
        m'.ownProperty? name = some (scope, b) ∧ Q a b := by
  rw [ownProperty?_eq_scopes, ownProperty?_eq_scopes, h.scopes]
  have hscope : ∀ scope ∈ m.bodies.map Prod.fst,
      (m'.property? scope name).map (scope, ·) = (m.property? scope name).map (scope, ·) ∨
        ∃ x y, (m.property? scope name).map (scope, ·) = some x ∧
          (m'.property? scope name).map (scope, ·) = some y ∧
          (x.1 = scope ∧ y.1 = scope ∧ Q x.2 y.2) := by
    intro scope _
    rcases h.property scope name with hsame | ⟨a, b, ha, hb, hab⟩
    · exact .inl (by rw [hsame])
    · exact .inr ⟨(scope, a), (scope, b), by rw [ha]; rfl, by rw [hb]; rfl, rfl, rfl, hab⟩
  refine (findSome?_reworded hscope).imp_right ?_
  rintro ⟨scope, _, ⟨_, a⟩, ⟨_, b⟩, hx, hy, rfl, rfl, hab⟩
  exact ⟨_, a, b, hx, hy, hab⟩

theorem scopes_modifyBody (m : Module) (edit : Body → Body) (scope : Scope) :
    (m.modifyBody edit scope).bodies.map Prod.fst = m.bodies.map Prod.fst := by
  rw [bodies_modifyBody, List.map_map]
  refine List.map_congr_left fun e _ => ?_
  rw [Function.comp_apply, modifyIn]
  split <;> rfl

theorem part_modifyBody (m : Module) (edit : Body → Body) (scope : Scope) (part : ProjectPart) :
    part.of (m.modifyBody edit scope) = part.of m :=
  (m.sameCoordinate_modifyBody edit scope).part_of_parent (m.parent_modifyBody edit scope) part

/-- Writing a version text that may replace the one at the address. -/
theorem reworded_setSlot (m : Module) (a : Address) (version : String)
    (h : ∀ d ∈ m.declarations, d.address = a → Replaced Q d.version (some version)) :
    m.Reworded Q (m.setSlot a version) where
  part := m.part_modifyBody _ a.scope
  parentModule := m.parentModule_modifyBody _ a.scope
  scopes := m.scopes_modifyBody _ a.scope
  property scope name := .inl (m.property?_modifyBody
    (fun b => properties_setSlot b version a.collection a.index) a.scope scope name)
  declarations := by
    refine ⟨fun d => if d.address = a then some version else d.version, ?_, fun d hd => ?_⟩
    · rw [m.declarations_setSlot a version]
      refine List.map_congr_left fun d _ => ?_
      by_cases haddress : d.address = a <;> simp [Declaration.rewrite, haddress]
    · dsimp only
      split
      · rename_i haddress
        exact h d hd haddress
      · exact .inl rfl

/-- Writing a value that may replace the one in the scope. -/
theorem reworded_setProperty (m : Module) (scope : Scope) (name value : String)
    (h : Replaced Q (m.property? scope name) (some value)) :
    m.Reworded Q (m.setProperty scope name value) where
  part := m.part_modifyBody _ scope
  parentModule := m.parentModule_modifyBody _ scope
  scopes := m.scopes_modifyBody _ scope
  property scope' name' := by
    rcases m.property?_setProperty_cases scope scope' name name' value with hsame | hset
    · exact .inl hsame
    · obtain ⟨rfl, rfl, hset⟩ := hset
      rwa [hset]
  declarations := ⟨Declaration.version,
    (m.declarations_setProperty scope name value).trans (List.map_id _).symm, fun _ _ => .inl rfl⟩

end Module

/-! ## Reactors -/

namespace Reactor

/-- Two reactors whose modules differ at most in texts that replace related ones. -/
structure Reworded (Q : Nat → String → String → Prop) (r r' : Reactor) : Prop where
  size : r'.size = r.size
  module : ∀ id, (r.module id).Reworded (Q id) (r'.module id)

variable {Q Q' : Nat → String → String → Prop} {r r' r'' : Reactor}

namespace Reworded

theorem refl (r : Reactor) : r.Reworded Q r :=
  ⟨rfl, fun id => .refl (r.module id)⟩

theorem mono (hQ : ∀ id a b, Q id a b → Q' id a b) (h : r.Reworded Q r') : r.Reworded Q' r' :=
  ⟨h.size, fun id => (h.module id).mono (hQ id)⟩

theorem trans (hQ : ∀ id a b c, Q id a b → Q id b c → Q id a c) (h : r.Reworded Q r')
    (h' : r'.Reworded Q r'') : r.Reworded Q r'' :=
  ⟨h'.size.trans h.size, fun id => (h.module id).trans (hQ id) (h'.module id)⟩

theorem sameLinks (h : r.Reworded Q r') : r.SameLinks r' :=
  ⟨h.size, fun id => (h.module id).parentModule⟩

theorem writtenVersion (h : r.Reworded Q r') (id : Nat) :
    (r'.module id).writtenVersion = (r.module id).writtenVersion :=
  (h.module id).part .version

/-- A property is found in the same place, and only its value may be reworded. -/
theorem nearestPlace? (h : r.Reworded Q r') (id : Nat) (name : String) :
    r'.nearestPlace? id name = r.nearestPlace? id name ∨
      ∃ place place', r.nearestPlace? id name = some place ∧
        r'.nearestPlace? id name = some place' ∧ Q place.module place.value place'.value := by
  rw [Reactor.nearestPlace?, Reactor.nearestPlace?, h.sameLinks.chain]
  have hown : ∀ m ∈ r.chain id, r'.ownPlace? name m = r.ownPlace? name m ∨
      ∃ x y, r.ownPlace? name m = some x ∧ r'.ownPlace? name m = some y ∧
        (x.module = m ∧ Q m x.value y.value) := by
    intro m _
    rw [ownPlace?, ownPlace?]
    rcases (h.module m).ownProperty? name with hsame | ⟨scope, a, b, ha, hb, hab⟩
    · exact .inl (by rw [hsame])
    · rw [ha, hb]
      exact .inr ⟨_, _, rfl, rfl, rfl, hab⟩
  refine (findSome?_reworded hown).imp_right ?_
  rintro ⟨m, _, place, place', hplace, hplace', rfl, hQ⟩
  exact ⟨place, place', hplace, hplace', hQ⟩

/-- A name is looked up alike, or its nearest declaration has a value that is replaced. -/
theorem lookup (h : r.Reworded Q r') (id : Nat) (name : String) :
    r'.lookup id name = r.lookup id name ∨
      ∃ place value, r.nearestPlace? id name = some place ∧ r.lookup id name = some place.value ∧
        r'.lookup id name = some value ∧ Q place.module place.value value := by
  rw [Reactor.lookup, Reactor.lookup]
  cases hpart : ProjectPart.ofName? name with
  | some part => exact .inl ((h.module id).part part)
  | none =>
    simp only [declaredProperty?_eq]
    rcases h.nearestPlace? id name with hsame | ⟨place, place', hplace, hplace', hQ⟩
    · exact .inl (by rw [hsame])
    · rw [hplace, hplace']
      exact .inr ⟨place, place'.value, rfl, rfl, rfl, hQ⟩

end Reworded

/-- A change of one module. -/
theorem reworded_modify (r : Reactor) (id : Nat) (edit : Module → Module)
    (keeps : ∀ m, (edit m).parentModule = m.parentModule)
    (h : (r.module id).Reworded (Q id) (edit (r.module id))) :
    r.Reworded Q (r.modify id edit keeps) := by
  refine ⟨by simp [size, modify], fun id' => ?_⟩
  rcases r.module_modify_cases id edit keeps id' with hsame | ⟨rfl, hedit⟩
  · rw [hsame]
    exact .refl _
  · rwa [hedit]

end Reactor

end BuildAlign
