import BuildAlign.Proofs.Reactor.NamesRead

/-!
How deep references are nested. Where the references of a text, those of the values that they lead
to, and so on, end within some depth, the text has its full value at that depth, and going deeper
changes nothing. Whatever the text depends on is nested less deep than the text itself.
-/

namespace BuildAlign

theorem Template.mem_references {raw : String} {name : List Char}
    (h : .reference name ∈ Template.pieces raw.toList) :
    String.ofList name ∈ Template.references raw :=
  List.mem_filterMap.mpr ⟨_, h, rfl⟩

namespace Reactor

variable {r : Reactor} {id : Nat}

/-- The references of a text in a module end after at most `depth` look-ups. Where they end, names
stand for nothing. -/
def NestedUpTo (r : Reactor) (id : Nat) : Nat → String → Prop
  | 0, raw => ∀ name ∈ Template.references raw, r.lookup id name = none
  | depth + 1, raw =>
    ∀ name ∈ Template.references raw, ∀ value, r.lookup id name = some value →
      r.NestedUpTo id depth value

instance decidableNestedUpTo (r : Reactor) (id : Nat) : (depth : Nat) → (raw : String) →
    Decidable (r.NestedUpTo id depth raw)
  | 0, raw =>
    inferInstanceAs (Decidable (∀ name ∈ Template.references raw, r.lookup id name = none))
  | depth + 1, raw =>
    have : DecidablePred (r.NestedUpTo id depth) := decidableNestedUpTo r id depth
    inferInstanceAs (Decidable (∀ name ∈ Template.references raw, ∀ value ∈ r.lookup id name,
      r.NestedUpTo id depth value))

/-- A text that leaves no reference when it is expanded is nested no deeper than it is expanded. -/
theorem nestedUpTo_of_expand {depth : Nat} {raw : String}
    (h : ¬ Template.opening <:+: r.expand id depth raw.toList) : r.NestedUpTo id depth raw := by
  induction depth generalizing raw with
  | zero =>
    have hraw : Template.hasReference raw = false := Template.hasReference_eq_false_iff.mpr h
    intro name hname
    rw [Template.references_of_not_hasReference hraw] at hname
    exact absurd hname List.not_mem_nil
  | succ depth ih =>
    intro name hname value hvalue
    rw [expand_eq_flatMap] at h
    obtain ⟨piece, hpiece, heq⟩ := List.mem_filterMap.mp hname
    -- what a reference is expanded to is a part of the whole, and so without references
    have hpart : r.expandPiece id depth piece <:+:
        (Template.pieces raw.toList).flatMap (r.expandPiece id depth) :=
      List.infix_of_mem_flatten (List.mem_map_of_mem hpiece)
    cases piece with
    | plain text => cases heq
    | reference chars =>
      cases heq
      rw [expandPiece, hvalue] at hpart
      exact ih fun hopen => h (hopen.trans hpart)

theorem nestedUpTo_of_resolve {raw : String}
    (h : Template.hasReference (r.resolve id raw) = false) :
    r.NestedUpTo id (maxDepth + 1) raw := by
  rw [Template.hasReference_eq_false_iff, resolve, String.toList_ofList] at h
  exact nestedUpTo_of_expand h

theorem nestedUpTo_of_not_hasReference {raw : String} (h : Template.hasReference raw = false)
    (depth : Nat) : r.NestedUpTo id depth raw := by
  apply nestedUpTo_of_expand
  rwa [r.expand_of_not_hasReference id depth h, ← Template.hasReference_eq_false_iff]

namespace NestedUpTo

variable {depth : Nat} {raw : String}

/-- Expanding deeper than a text is nested changes nothing. -/
theorem expand (h : r.NestedUpTo id depth raw) {n : Nat} (hn : depth ≤ n) :
    r.expand id n raw.toList = r.expand id depth raw.toList := by
  induction depth generalizing raw n with
  | zero => exact (r.expand_of_unknown id h n).trans (r.expand_of_unknown id h 0).symm
  | succ depth ih =>
    obtain ⟨n, rfl⟩ : ∃ n', n = n' + 1 := ⟨n - 1, by omega⟩
    rw [expand_eq_flatMap, expand_eq_flatMap]
    refine List.flatMap_congr fun piece hpiece => ?_
    cases piece with
    | plain text => rfl
    | reference name =>
      rw [expandPiece, expandPiece]
      cases hlookup : r.lookup id (String.ofList name) with
      | none => rfl
      | some value => exact ih (h _ (Template.mem_references hpiece) value hlookup) (by omega)

/-- The values that a text depends on are nested less deep. -/
theorem value (h : r.NestedUpTo id depth raw) {n : Nat} {name value : String}
    (hname : name ∈ r.namesReadUpTo id n raw.toList) (hvalue : r.lookup id name = some value) :
    ∃ less < depth, r.NestedUpTo id less value := by
  induction n generalizing depth raw with
  | zero => exact absurd hname List.not_mem_nil
  | succ n ih =>
    rw [namesReadUpTo, List.mem_flatMap] at hname
    obtain ⟨piece, hpiece, hname⟩ := hname
    cases piece with
    | plain text => exact absurd hname List.not_mem_nil
    | reference first =>
      have hfirst := Template.mem_references hpiece
      have hdepth : ∀ next, r.lookup id (String.ofList first) = some next →
          ∃ less, depth = less + 1 ∧ r.NestedUpTo id less next := by
        intro next hnext
        cases depth with
        | zero => cases (h _ hfirst).symm.trans hnext
        | succ less => exact ⟨less, rfl, h _ hfirst next hnext⟩
      rcases List.mem_cons.mp hname with rfl | hname
      · obtain ⟨less, rfl, hless⟩ := hdepth value hvalue
        exact ⟨less, Nat.lt_succ_self less, hless⟩
      · cases hnext : r.lookup id (String.ofList first) with
        | none =>
          rw [hnext] at hname
          exact absurd hname List.not_mem_nil
        | some next =>
          rw [hnext] at hname
          obtain ⟨less, rfl, hless⟩ := hdepth next hnext
          obtain ⟨least, hlt, hleast⟩ := ih hless hname
          exact ⟨least, by omega, hleast⟩

end NestedUpTo

end Reactor

end BuildAlign
