import BuildAlign.Proofs.Reactor.Chain

/-!
The tree of modules. A module is a node of it by its identity, its packaging and its parent;
versions, and what the bodies and profiles hold, are no part of the tree. Two reactors with the same
nodes have the same links, and so the same walks to the root and the same order of visits. The
modules of a reactor are accepted as a reactor again.
-/

namespace BuildAlign

namespace Module

/-- Two modules that are one node of the tree: the same group of its own, name, packaging and
parent, both the declared one and the one inside the reactor. -/
structure SameNode (m m' : Module) : Prop where
  group : m'.group = m.group
  name : m'.name = m.name
  packaging : m'.packaging = m.packaging
  parentModule : m'.parentModule = m.parentModule
  parent : m'.parent.map Parent.artifact = m.parent.map Parent.artifact

theorem SameNode.refl (m : Module) : m.SameNode m :=
  ⟨rfl, rfl, rfl, rfl, rfl⟩

theorem SameNode.trans {m m' m'' : Module} (h : m.SameNode m') (h' : m'.SameNode m'') :
    m.SameNode m'' :=
  ⟨h'.group.trans h.group, h'.name.trans h.name, h'.packaging.trans h.packaging,
    h'.parentModule.trans h.parentModule, h'.parent.trans h.parent⟩

theorem sameNode_modifyBody (m : Module) (edit : Body → Body) (scope : Scope) :
    m.SameNode (m.modifyBody edit scope) := by
  cases scope <;> exact ⟨rfl, rfl, rfl, rfl, rfl⟩

/-- Another version of the declared parent leaves its identity. -/
theorem sameNode_parentVersion (m : Module) (version : String) :
    m.SameNode { m with parent := m.parent.map fun p => { p with version } } := by
  refine ⟨rfl, rfl, rfl, rfl, ?_⟩
  rw [Option.map_map]
  rfl

end Module

namespace Reactor

/-- The checks that make a reactor of a list of modules hold of the modules of a reactor. -/
theorem ofModules_modules (r : Reactor) : ofModules r.modules = .ok r := by
  have hne : r.modules ≠ [] := by simpa using r.forest.nonempty
  have hinside : strayModule? r.modules = none := by
    refine List.find?_eq_none.mpr fun e he => Bool.not_eq_true _ ▸ ?_
    exact r.forest.inside _ (List.mem_map_of_mem (List.fst_mem_of_mem_zipIdx he))
  have hends : cyclicModule? (r.modules.map Module.parentModule) = none := by
    refine List.find?_eq_none.mpr fun i hi => Bool.not_eq_true _ ▸ ?_
    exact r.forest.ends i hi
  rw [ofModules, dif_neg hne]
  split
  · rename_i hstray
    cases hinside.symm.trans hstray
  · split
    · rename_i hcyclic
      cases hends.symm.trans hcyclic
    · rfl

/-- Two reactors with the same nodes. -/
structure SameTree (r r' : Reactor) : Prop where
  size : r'.size = r.size
  node : ∀ id, (r.module id).SameNode (r'.module id)

theorem SameTree.sameLinks {r r' : Reactor} (h : r.SameTree r') : r.SameLinks r' :=
  ⟨h.size, fun id => (h.node id).parentModule⟩

end Reactor

end BuildAlign
