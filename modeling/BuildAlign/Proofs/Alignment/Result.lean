import BuildAlign.Proofs.Alignment.Exact

/-!
The modules after a run, read off their exact form. The declarations are those of before, each with
the version text that it asks for, behind the added managed dependencies; the declared parent is the
one that the declarations saw; and a property has its value of before or that of its mapping.
-/

namespace BuildAlign

/-! ## Writing what is asked for -/

namespace Request

def realign (x : Request) (d : Declaration) : Declaration :=
  match x.text? with
  | some version => { d with version := some version }
  | none => d

theorem declarations_write (x : Request) (a : Address) (m : Module) :
    (x.write a m).declarations =
      m.declarations.map fun d => if d.address = a then x.realign d else d := by
  rw [write]
  unfold realign
  cases x.text? with
  | none => simp
  | some version => exact m.declarations_setSlot a version

theorem address_realign (x : Request) (d : Declaration) : (x.realign d).address = d.address := by
  rw [realign]
  split <;> rfl

theorem realign_realign (x : Request) (d : Declaration) : x.realign (x.realign d) = x.realign d := by
  unfold realign
  cases x.text? <;> rfl

/-- A declaration while others of its module get what they ask for: only what it asks for itself is
written at its address. -/
theorem foldl_realign {m : Module} {x : Declaration → Request} {d₀ : Declaration}
    (hd₀ : d₀ ∈ m.declarations) {ds : List Declaration} (hds : ∀ d ∈ ds, d ∈ m.declarations)
    {d' : Declaration} (haddress : d'.address = d₀.address) :
    ds.foldl (fun d' d => if d'.address = d.address then (x d).realign d' else d') d' =
      if d₀ ∈ ds then (x d₀).realign d' else d' := by
  induction ds generalizing d' with
  | nil => rfl
  | cons d later ih =>
    obtain ⟨hd, hlater⟩ := List.forall_mem_cons.mp hds
    rw [List.foldl_cons]
    by_cases hsame : d₀ = d
    · subst hsame
      rw [if_pos haddress, ih hlater ((address_realign _ _).trans haddress), realign_realign,
        ite_self, if_pos (List.mem_cons_self ..)]
    · have hne : d'.address ≠ d.address := by
        intro heq
        exact hsame (Module.eq_of_address_eq hd₀ hd (haddress.symm.trans heq))
      rw [if_neg hne, ih hlater haddress]
      simp only [List.mem_cons, hsame, false_or]

/-- Every declaration of a module gets what it asks for, and no other one changes it. -/
theorem declarations_foldl (x : Declaration → Request) {m : Module} {ds : List Declaration}
    (hds : m.declarations = ds) :
    (ds.foldl (fun m d => (x d).write d.address m) m).declarations =
      ds.map fun d => (x d).realign d := by
  have hfold : ∀ (later : List Declaration) (m : Module),
      (later.foldl (fun m d => (x d).write d.address m) m).declarations =
        m.declarations.map fun d₀ =>
          later.foldl (fun d' d => if d'.address = d.address then (x d).realign d' else d') d₀ := by
    intro later
    induction later with
    | nil =>
      intro m
      exact (List.map_id' _).symm
    | cons d later ih =>
      intro m
      rw [List.foldl_cons, ih, declarations_write, List.map_map]
      rfl
  rw [hfold, hds]
  refine List.map_congr_left fun d hd => ?_
  rw [foldl_realign (m := m) (hds ▸ hd) (fun d' hd' => hds ▸ hd') rfl, if_pos hd]

end Request

/-! ## Writing the ledger -/

namespace PropertyLedger

/-- Writing a mapping changes no property but its own, and no other scope of it. -/
theorem property?_write_cases (p : Progress) (m : PropertyMapping) (id : Nat) (scope : Scope)
    (name : String) :
    ((write p m).reactor.module id).property? scope name =
        (p.reactor.module id).property? scope name ∨
      m.owner = ⟨id, name⟩ ∧ scope = m.scope.getD .main ∧
        ((write p m).reactor.module id).property? scope name = some m.new := by
  rw [reactor_write]
  split
  · exact .inl rfl
  · rcases p.reactor.module_setProperty_cases m.module (m.scope.getD .main) m.name m.new id
      with hsame | ⟨hmodule, hset⟩
    · exact .inl (by rw [hsame])
    · rw [hset]
      refine (Module.property?_setProperty_cases ..).imp_right ?_
      rintro ⟨hscope, hname, hnew⟩
      exact ⟨by rw [PropertyMapping.owner, hmodule, hname], hscope, hnew⟩

/-- After the mappings are written, a property has its value of before or that of its mapping. -/
theorem property?_flush_cases {ledger : PropertyLedger} (hkeyed : ledger.Keyed) (p : Progress)
    (id : Nat) (scope : Scope) (name : String) :
    ((ledger.flush p).reactor.module id).property? scope name =
        (p.reactor.module id).property? scope name ∨
      ∃ m, ledger.get? ⟨id, name⟩ = some m ∧ scope = m.scope.getD .main ∧
        ((ledger.flush p).reactor.module id).property? scope name = some m.new := by
  have hfold : ∀ (mappings : List PropertyMapping) (p : Progress),
      ((mappings.foldl write p).reactor.module id).property? scope name =
          (p.reactor.module id).property? scope name ∨
        ∃ m ∈ mappings, m.owner = ⟨id, name⟩ ∧ scope = m.scope.getD .main ∧
          ((mappings.foldl write p).reactor.module id).property? scope name = some m.new := by
    intro mappings
    induction mappings with
    | nil => exact fun _ => .inl rfl
    | cons m later ih =>
      intro p
      rcases ih (write p m) with hsame | ⟨m', hm', howner, hscope, hnew⟩
      · rcases property?_write_cases p m id scope name with hsame' | ⟨howner, hscope, hnew⟩
        · exact .inl (hsame.trans hsame')
        · exact .inr ⟨m, List.mem_cons_self .., howner, hscope, hsame.trans hnew⟩
      · exact .inr ⟨m', List.mem_cons_of_mem _ hm', howner, hscope, hnew⟩
  rcases hfold ledger.values p with hsame | ⟨m, hm, howner, hscope, hnew⟩
  · exact .inl hsame
  · obtain ⟨key, hget⟩ := Table.mem_values_iff.mp hm
    rw [← hkeyed key m hget, howner] at hget
    exact .inr ⟨m, hget, hscope, hnew⟩

end PropertyLedger

/-! ## The modules -/

namespace DependencyAlignment

open Request

variable {a : DependencyAlignment} {r r' : Reactor} {id : Nat}

def realign (a : DependencyAlignment) (r : Reactor) (id : Nat) (d : Declaration) : Declaration :=
  (a.request r id d).realign d

theorem declarations_alignedModule (hid : id < r.size) :
    (a.alignedModule r id).declarations =
      Module.listDependencies .main .managedDependencies (a.added r id) ++
        ((r.module id).declarations.map (a.realign r id)).map
          (Declaration.behind (a.added r id).length) := by
  rw [alignedModule, Module.declarations_manage, alignedDeclared,
    declarations_foldl _ (a.declarations_asVisited hid)]
  rfl

/-- What writing a version text keeps is kept while the declarations get what they ask for. -/
theorem alignedDeclared_induction {P : Module → Prop}
    (hwrite : ∀ (m : Module) (address : Address) (version : String), P m →
      P (m.setSlot address version))
    (hvisited : P ((a.asVisited r id).module id)) : P (a.alignedDeclared r id) := by
  have hfold : ∀ (ds : List Declaration) (m : Module), P m →
      P (ds.foldl (fun m d => (a.request r id d).write d.address m) m) := by
    intro ds
    induction ds with
    | nil => exact fun _ hm => hm
    | cons d later ih =>
      intro m hm
      apply ih
      simp only [Request.write]
      split
      · exact hwrite m _ _ hm
      · exact hm
  exact hfold _ _ hvisited

/-- A visit keeps what the declarations do not touch. -/
theorem alignedModule_induction {P : Module → Prop}
    (hbody : ∀ (m : Module) (edit : Body → Body) (scope : Scope),
      (∀ b, (edit b).properties = b.properties) → P m → P (m.modifyBody edit scope))
    (hvisited : P ((a.asVisited r id).module id)) : P (a.alignedModule r id) := by
  rw [alignedModule, Module.manage]
  refine hbody _ _ _ (fun _ => rfl) (alignedDeclared_induction (fun m address version hm => ?_)
    hvisited)
  exact hbody m _ _ (fun b => Module.properties_setSlot b _ _ _) hm

theorem parent_alignedModule :
    (a.alignedModule r id).parent = ((a.asVisited r id).module id).parent := by
  apply alignedModule_induction (P := fun m => m.parent = ((a.asVisited r id).module id).parent)
  · intro m edit scope _ hm
    exact (m.parent_modifyBody edit scope).trans hm
  · rfl

theorem property?_alignedModule (hid : id < r.size) (scope : Scope) (name : String) :
    (a.alignedModule r id).property? scope name = (r.module id).property? scope name := by
  apply alignedModule_induction
    (P := fun m => m.property? scope name = (r.module id).property? scope name)
  · intro m edit scope' hedit hm
    exact (m.property?_modifyBody hedit scope' scope name).trans hm
  · rcases a.module_asVisited_cases hid with hsame | ⟨new, hmoved⟩
    · rw [hsame]
    · rw [hmoved]
      rfl

/-! ## After the run -/

namespace Left

variable (h : Left a r r') (hid : id < r.size)

include h hid

/-- The declarations after a run, with their exact texts. Added dependencies move the addresses of
the others. -/
theorem declarations : (r'.module id).declarations =
    Module.listDependencies .main .managedDependencies (a.added r id) ++
      ((r.module id).declarations.map (a.realign r id)).map
        (Declaration.behind (a.added r id).length) := by
  obtain ⟨q, _, hmodules, rfl⟩ := h.written
  rw [((a.ledgerOf r).sameDeclared_flush q id).declarations, hmodules id hid,
    declarations_alignedModule hid]

/-- Without added managed dependencies. -/
theorem declarations_of_not_transitive (htransitive : a.config.overrideTransitive = false) :
    (r'.module id).declarations = (r.module id).declarations.map (a.realign r id) := by
  have hadded : a.added r id = [] := by
    simp [added, injects, htransitive]
  rw [h.declarations hid, hadded]
  simp [Module.listDependencies, Declaration.behind, Address.behind]

theorem parent : (r'.module id).parent = ((a.asVisited r id).module id).parent := by
  obtain ⟨q, _, hmodules, rfl⟩ := h.written
  rw [((a.ledgerOf r).sameDeclared_flush q id).parent, hmodules id hid, parent_alignedModule]

theorem property_cases (scope : Scope) (name : String) :
    (r'.module id).property? scope name = (r.module id).property? scope name ∨
      ∃ m, (a.ledgerOf r).get? ⟨id, name⟩ = some m ∧ scope = m.scope.getD .main ∧
        (r'.module id).property? scope name = some m.new := by
  obtain ⟨q, _, hmodules, rfl⟩ := h.written
  have hbefore := property?_alignedModule (a := a) hid scope name
  rw [← hmodules id hid] at hbefore
  rw [← hbefore]
  exact PropertyLedger.property?_flush_cases (a.fits_ledgerOf r).keyed q id scope name

end Left

end DependencyAlignment

end BuildAlign
