import BuildAlign.Proofs.Reactor.NamesRead

/-!
What a module sees of its reactor. All names are looked up alike for a module in two reactors of one
frame in which it declares the same parent, whatever versions its own declarations have. So it has
the same view while its declarations are aligned.
-/

namespace BuildAlign.Reactor

/-- Two reactors of one frame in which a module declares the same parent. -/
structure SameView (id : Nat) (r r' : Reactor) : Prop where
  frame : r.SameFrame r'
  parent : (r'.module id).parent = (r.module id).parent

theorem SameFrame.view {r r' : Reactor} {id : Nat} (h : r.SameFrame r')
    (hid : r'.module id = r.module id) : SameView id r r' :=
  ⟨h, congrArg Module.parent hid⟩

namespace SameView

variable {id : Nat} {r r' r'' : Reactor}

theorem refl (id : Nat) (r : Reactor) : SameView id r r :=
  ⟨.refl r, rfl⟩

theorem trans (h : SameView id r r') (h' : SameView id r' r'') : SameView id r r'' :=
  ⟨h.frame.trans h'.frame, h'.parent.trans h.parent⟩

theorem writtenVersion (h : SameView id r r') :
    (r'.module id).writtenVersion = (r.module id).writtenVersion := by
  rw [Module.writtenVersion, Module.writtenVersion, (h.frame.modules id).version, h.parent]

theorem part (h : SameView id r r') (part : ProjectPart) :
    part.of (r'.module id) = part.of (r.module id) :=
  (h.frame.modules id).toSameCoordinate.part_of_parent h.parent part

theorem lookup (h : SameView id r r') (name : String) : r'.lookup id name = r.lookup id name := by
  simp only [Reactor.lookup, h.part, h.frame.declaredProperty?]

theorem resolve (h : SameView id r r') (raw : String) : r'.resolve id raw = r.resolve id raw :=
  resolve_congr fun name _ => h.lookup name

theorem declaredArtifact (h : SameView id r r') (d : Declaration) :
    r'.declaredArtifact id d = r.declaredArtifact id d := by
  rw [Reactor.declaredArtifact, Reactor.declaredArtifact, h.resolve, h.resolve]

end SameView

/-- A change of what a body declares besides properties keeps the views of all modules. -/
theorem sameView_modifyBody (r : Reactor) {id : Nat} (hid : id < r.size) {edit : Body → Body}
    (hedit : ∀ b, (edit b).properties = b.properties) (scope : Scope) (id' : Nat) :
    SameView id' r (r.modifyBody id scope edit) := by
  refine ⟨r.sameFrame_modify hid _ _ (Module.sameFrame_modifyBody _ hedit scope), ?_⟩
  rw [modifyBody, r.module_modify hid]
  split
  · rename_i heq
    rw [heq]
    exact (r.module id).parent_modifyBody edit scope
  · rfl

/-- Writing a version text of a module keeps its view. -/
theorem sameView_setSlot (r : Reactor) {id : Nat} (hid : id < r.size) (a : Address)
    (version : String) : SameView id r (r.setSlot id a version) :=
  r.sameView_modifyBody hid
    (fun b => Module.properties_setSlot b version a.collection a.index) a.scope id

end BuildAlign.Reactor
