import BuildAlign.Proofs.Reactor.Frame

/-!
What the value of a text depends on. Expanding a text looks up the names that it refers to, then the
names that their values refer to, and so on. If all of these are looked up alike in two reactors,
the text has the same value in both.
-/

namespace BuildAlign.Reactor

/-- The names that are looked up when a text is expanded. -/
def namesReadUpTo (r : Reactor) (id : Nat) : Nat → List Char → List String
  | 0, _ => []
  | depth + 1, raw =>
    (Template.pieces raw).flatMap fun
      | .plain _ => []
      | .reference name =>
        String.ofList name ::
          match r.lookup id (String.ofList name) with
          | some value => r.namesReadUpTo id depth value.toList
          | none => []

/-- The names that the value of a text in a module depends on. -/
def namesRead (r : Reactor) (id : Nat) (raw : String) : List String :=
  r.namesReadUpTo id (maxDepth + 1) raw.toList

variable {r r' : Reactor} {id : Nat}

/-- An expansion reads nothing but the names that its text depends on. -/
theorem expand_congr {depth : Nat} {raw : List Char}
    (h : ∀ name ∈ r.namesReadUpTo id depth raw, r'.lookup id name = r.lookup id name) :
    r'.expand id depth raw = r.expand id depth raw := by
  induction depth generalizing raw with
  | zero => rfl
  | succ depth ih =>
    rw [expand, expand]
    refine congrArg List.flatten (List.map_congr_left fun piece hpiece => ?_)
    cases piece with
    | plain text => rfl
    | reference name =>
      have hread : ∀ name' ∈ String.ofList name ::
          (match r.lookup id (String.ofList name) with
            | some value => r.namesReadUpTo id depth value.toList
            | none => []), r'.lookup id name' = r.lookup id name' := by
        intro name' hname'
        apply h
        rw [namesReadUpTo]
        exact List.mem_flatMap.mpr ⟨_, hpiece, hname'⟩
      obtain ⟨hname, hvalue⟩ := List.forall_mem_cons.mp hread
      simp only [hname]
      cases hlookup : r.lookup id (String.ofList name) with
      | none => rfl
      | some value =>
        rw [hlookup] at hvalue
        exact ih hvalue

/-- A text has the same value where the names it depends on are looked up alike. -/
theorem resolve_congr {raw : String}
    (h : ∀ name ∈ r.namesRead id raw, r'.lookup id name = r.lookup id name) :
    r'.resolve id raw = r.resolve id raw :=
  congrArg String.ofList (expand_congr h)

namespace SameFrame

theorem resolve (h : r.SameFrame r') (hid : r'.module id = r.module id) (raw : String) :
    r'.resolve id raw = r.resolve id raw := by
  refine resolve_congr fun name _ => ?_
  rw [Reactor.lookup, Reactor.lookup, hid, h.declaredProperty?]

/-- A module that is the same in both reactors has the same identity. -/
theorem artifact (h : r.SameFrame r') (hid : r'.module id = r.module id) :
    r'.artifact id = r.artifact id := by
  have hresolve : r'.resolve id = r.resolve id := funext (h.resolve hid)
  rw [Reactor.artifact, Reactor.artifact, hresolve, hid]

end SameFrame

end BuildAlign.Reactor
