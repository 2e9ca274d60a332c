import BuildAlign.Proofs.Module.Declarations
import Mathlib.Data.List.Nodup

/-!
Writing version texts into the dependencies of a module, one after the other. No two dependencies
have one address, and no write moves one, so all of them are changed at once, each by the text it
had before the first write.
-/

namespace BuildAlign

section

variable {α β γ : Type} (entry : Nat → α → β) (step : γ → β → γ) (put : List α → γ)
  (edit : Nat → α → α → α) {f : α → α}
  (hstep : ∀ xs i x, step (put xs) (entry i x) = put (xs.modify i (edit i x)))
  (hedit : ∀ i x, edit i x x = f x)

include hstep hedit

theorem foldl_mapIdx_behind (front later : List α) :
    (later.mapIdx fun i x => entry (front.length + i) x).foldl step (put (front ++ later)) =
      put (front ++ later.map f) := by
  induction later generalizing front with
  | nil => simp
  | cons x later ih =>
    have hmodify : ∀ g : α → α,
        (front ++ x :: later).modify front.length g = front ++ [g x] ++ later := by
      intro g
      simp [List.modify_eq_take_drop]
    have hnext := ih (front ++ [f x])
    rw [List.mapIdx_cons, List.foldl_cons, Nat.add_zero, hstep, hmodify, hedit, List.map_cons]
    rw [List.length_append, List.length_singleton] at hnext
    simp only [Nat.add_assoc, Nat.add_comm 1] at hnext ⊢
    rw [hnext, List.append_assoc, List.singleton_append]

/-- Steps that change the elements of a list one by one, at their indices, change each of them by
what it was before the first step. -/
theorem foldl_mapIdx (xs : List α) : (xs.mapIdx entry).foldl step (put xs) = put (xs.map f) := by
  have hall := foldl_mapIdx_behind entry step put edit hstep hedit [] xs
  simp only [List.length_nil, Nat.zero_add, List.nil_append] at hall
  exact hall

end

/-- The dependency with the new version that a rule has for it, if the rule has one. -/
def Dependency.renew (rule : Dependency → Option String) (d : Dependency) : Dependency :=
  { d with version := (rule d).or d.version }

def Body.mapDependencies (f : Dependency → Dependency) (b : Body) : Body :=
  { b with
    dependencies := b.dependencies.map f
    managedDependencies := b.managedDependencies.map f }

def Module.mapDependencies (f : Dependency → Dependency) (m : Module) : Module :=
  { m with
    body := m.body.mapDependencies f
    profiles := m.profiles.map fun p => { p with body := p.body.mapDependencies f } }

def Body.writeNew (new? : Declaration → Option String) (b : Body) (d : Declaration) : Body :=
  (new? d).elim b fun version => b.setSlot version d.address.collection d.address.index

def Module.writeNew (new? : Declaration → Option String) (m : Module) (d : Declaration) : Module :=
  (new? d).elim m fun version => m.setSlot d.address version

/-! ## One body -/

section

variable {new? : Declaration → Option String} {rule : Dependency → Option String}
  (hrule : ∀ address d, new? (.ofDependency address d) = rule d)

include hrule

/-- Writing the entries of one list one after the other is changing the list as a whole. -/
theorem foldl_writeNew_list (scope : Scope) (c : Collection) (put : List Dependency → Body)
    (hput : ∀ version ds i, (put ds).setSlot version c i = put (Body.setSlot.setAt version ds i))
    (ds : List Dependency) :
    (Module.listDependencies scope c ds).foldl (Body.writeNew new?) (put ds) =
      put (ds.map (.renew rule)) := by
  -- the dependency that is written, with the version of the one that the write is planned for
  let edit (d d' : Dependency) : Dependency := { d' with version := (rule d).or d'.version }
  refine foldl_mapIdx _ _ put (fun _ => edit) (fun ds i d => ?_) (fun _ _ => rfl) ds
  rw [Body.writeNew, hrule]
  cases hnew : rule d with
  | none =>
    have hkeep : edit d = id := by
      funext d'
      simp [edit, hnew]
    rw [hkeep, List.modify_id]
    rfl
  | some version =>
    have hwrite : edit d = fun d' => { d' with version := some version } := by
      funext d'
      simp [edit, hnew]
    rw [hwrite]
    exact hput version ds i

theorem foldl_writeNew_bodyDependencies (scope : Scope) (b : Body) :
    (Module.bodyDependencies (scope, b)).foldl (Body.writeNew new?) b =
      b.mapDependencies (.renew rule) := by
  have hmanaged := foldl_writeNew_list hrule scope .managedDependencies
    (fun ds => { b with managedDependencies := ds }) (fun _ _ _ => rfl) b.managedDependencies
  have hother := foldl_writeNew_list hrule scope .dependencies
    (fun ds => { b with
      managedDependencies := b.managedDependencies.map (.renew rule), dependencies := ds })
    (fun _ _ _ => rfl) b.dependencies
  rw [Module.bodyDependencies, List.foldl_append, hmanaged]
  exact hother

end

/-! ## All bodies of a module -/

namespace Module

theorem modifyBody_id (m : Module) (scope : Scope) : m.modifyBody id scope = m := by
  cases scope with
  | main => rfl
  | profile i => exact congrArg (fun profiles => { m with profiles }) (List.modify_id ..)

theorem modifyBody_modifyBody (m : Module) (edit edit' : Body → Body) (scope : Scope) :
    (m.modifyBody edit scope).modifyBody edit' scope = m.modifyBody (edit' ∘ edit) scope := by
  cases scope with
  | main => rfl
  | profile i => exact congrArg (fun profiles => { m with profiles }) (List.modify_modify_eq ..)

section

variable {new? : Declaration → Option String} {rule : Dependency → Option String}

theorem writeNew_eq_modifyBody (m : Module) (d : Declaration) :
    m.writeNew new? d = m.modifyBody (Body.writeNew new? · d) d.address.scope := by
  rw [writeNew]
  cases hnew : new? d with
  | none =>
    have hkeep : (Body.writeNew new? · d) = id := by
      funext b
      rw [Body.writeNew, hnew]
      rfl
    rw [hkeep, modifyBody_id]
    rfl
  | some version =>
    simp only [Body.writeNew, hnew]
    rfl

/-- Declarations of one scope are written in its body only. -/
theorem foldl_writeNew_of_scope {scope : Scope} {ds : List Declaration}
    (hds : ∀ d ∈ ds, d.address.scope = scope) (m : Module) :
    ds.foldl (writeNew new?) m =
      m.modifyBody (fun b => ds.foldl (Body.writeNew new?) b) scope := by
  induction ds generalizing m with
  | nil => exact (m.modifyBody_id scope).symm
  | cons d later ih =>
    obtain ⟨hd, hlater⟩ := List.forall_mem_cons.mp hds
    rw [List.foldl_cons, ih hlater, writeNew_eq_modifyBody, hd, modifyBody_modifyBody]
    rfl

variable (hrule : ∀ address d, new? (.ofDependency address d) = rule d)

include hrule

theorem foldl_writeNew_profiles (m : Module) :
    (m.profileBodies.flatMap bodyDependencies).foldl (writeNew new?) m =
      { m with
        profiles := m.profiles.map fun p =>
          { p with body := p.body.mapDependencies (.renew rule) } } := by
  let write (m : Module) (e : Scope × Body) : Module :=
    m.modifyBody (fun b => (bodyDependencies e).foldl (Body.writeNew new?) b) e.1
  have hwrite : ∀ m e, (bodyDependencies e).foldl (writeNew new?) m = write m e :=
    fun m e => foldl_writeNew_of_scope (listing_bodyDependencies.scope e) m
  rw [List.foldl_flatMap]
  simp only [hwrite]
  refine foldl_mapIdx (fun i p => (.profile i, p.body)) write (fun profiles => { m with profiles })
    (fun i p p' => { p' with
      body := (bodyDependencies (.profile i, p.body)).foldl (Body.writeNew new?) p'.body })
    (fun _ _ _ => rfl) (fun i p => ?_) m.profiles
  rw [foldl_writeNew_bodyDependencies hrule]

/-- The writes change every dependency by its own new version. -/
theorem foldl_writeNew (m : Module) :
    m.dependencyDeclarations.foldl (writeNew new?) m = m.mapDependencies (.renew rule) := by
  have hbodies : m.dependencyDeclarations =
      bodyDependencies (.main, m.body) ++ m.profileBodies.flatMap bodyDependencies := rfl
  have hmain : (bodyDependencies (.main, m.body)).foldl (writeNew new?) m =
      { m with body := m.body.mapDependencies (.renew rule) } := by
    rw [foldl_writeNew_of_scope (listing_bodyDependencies.scope _),
      modifyBody, foldl_writeNew_bodyDependencies hrule]
  rw [hbodies, List.foldl_append, hmain]
  exact foldl_writeNew_profiles hrule { m with body := m.body.mapDependencies (.renew rule) }

end

/-! ## Dependencies and their declarations -/

/-- Every managed dependency and dependency, body after body. -/
def allDependencies (m : Module) : List Dependency :=
  m.bodies.flatMap fun e => e.2.managedDependencies ++ e.2.dependencies

section

variable {α : Type} {read : Declaration → Option α} {rule : Dependency → Option α}
  (hrule : ∀ address d, read (.ofDependency address d) = rule d)

include hrule

theorem filterMap_listDependencies (scope : Scope) (c : Collection) (ds : List Dependency) :
    (listDependencies scope c ds).filterMap read = ds.filterMap rule := by
  have hread : (read ∘ fun e : Dependency × Nat => .ofDependency ⟨scope, c, e.2⟩ e.1) =
      rule ∘ Prod.fst := funext fun e => hrule _ e.1
  rw [listDependencies, List.mapIdx_eq_zipIdx_map, List.filterMap_map, hread, ← List.filterMap_map,
    List.zipIdx_map_fst]

/-- What is read off the declarations without their addresses is read off the dependencies. -/
theorem filterMap_dependencyDeclarations (m : Module) :
    m.dependencyDeclarations.filterMap read = m.allDependencies.filterMap rule := by
  rw [dependencyDeclarations, allDependencies, List.filterMap_flatMap, List.filterMap_flatMap]
  simp only [List.filterMap_append, filterMap_listDependencies hrule]

end

theorem address_listDependencies (scope : Scope) (c : Collection) (ds : List Dependency) :
    (listDependencies scope c ds).map Declaration.address =
      (List.range ds.length).map fun i => ⟨scope, c, i⟩ := by
  refine List.ext_getElem (by simp [listDependencies]) fun i _ _ => ?_
  simp [listDependencies, Declaration.ofDependency]

theorem nodup_address_listDependencies (scope : Scope) (c : Collection) (ds : List Dependency) :
    ((listDependencies scope c ds).map Declaration.address).Nodup := by
  rw [address_listDependencies]
  refine List.Nodup.map (fun i j hij => ?_) List.nodup_range
  injection hij

theorem nodup_scopes (m : Module) : (m.bodies.map Prod.fst).Nodup := by
  have hscopes : m.bodies.map Prod.fst =
      .main :: (List.range m.profiles.length).map Scope.profile := by
    refine congrArg (Scope.main :: ·) (List.ext_getElem (by simp) fun i _ _ => ?_)
    simp
  rw [hscopes, List.nodup_cons]
  refine ⟨by simp, List.Nodup.map (fun i j hij => ?_) List.nodup_range⟩
  injection hij

theorem nodup_address_bodyDependencies (e : Scope × Body) :
    ((bodyDependencies e).map Declaration.address).Nodup := by
  rw [bodyDependencies, List.map_append]
  refine (nodup_address_listDependencies ..).append (nodup_address_listDependencies ..) ?_
  intro a ha ha'
  obtain ⟨d, hd, rfl⟩ := List.mem_map.mp ha
  obtain ⟨d', hd', heq⟩ := List.mem_map.mp ha'
  have hcollection := (address_of_mem_listDependencies hd').2
  rw [heq, (address_of_mem_listDependencies hd).2] at hcollection
  cases hcollection

/-- Listings of all bodies have no two declarations of one address if those of each body have not. -/
theorem Listing.nodup_address_flatMap {list : Scope × Body → List Declaration} (h : Listing list)
    (hlist : ∀ e, ((list e).map Declaration.address).Nodup) (m : Module) :
    ((m.bodies.flatMap list).map Declaration.address).Nodup := by
  rw [List.map_flatMap]
  refine List.nodup_flatMap.mpr ⟨fun e _ => hlist e, ?_⟩
  refine (List.pairwise_map.mp m.nodup_scopes).imp ?_
  intro e e' hne a ha ha'
  obtain ⟨d, hd, rfl⟩ := List.mem_map.mp ha
  obtain ⟨d', hd', heq⟩ := List.mem_map.mp ha'
  refine hne ?_
  rw [← h.scope e d hd, ← heq, h.scope e' d' hd']

/-- No two dependencies have one address. -/
theorem nodup_address_dependencyDeclarations (m : Module) :
    (m.dependencyDeclarations.map Declaration.address).Nodup :=
  listing_bodyDependencies.nodup_address_flatMap nodup_address_bodyDependencies m

end Module

end BuildAlign
