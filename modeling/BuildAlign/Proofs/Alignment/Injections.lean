import BuildAlign.Alignment.Dependencies
import Mathlib.Data.List.Induction

/-!
The managed dependencies that override entries stand for. Of dependencies with one identity the
first one is taken, and the order is that of the first ones.
-/

namespace BuildAlign

/-- What makes a managed dependency the same as another one: all but version and scope. -/
def Dependency.identity (d : Dependency) : Artifact × String × Option String :=
  ({ group := d.group, name := d.name }, d.kind, d.classifier)

def OverrideEntry.identity (e : OverrideEntry) : Artifact × String × Option String :=
  (e.artifact, e.target.kind, e.target.classifier)

/-- The managed dependency that an entry with a version stands for. -/
def OverrideEntry.addition (e : OverrideEntry) : Dependency where
  group := e.artifact.group
  name := e.artifact.name
  version := some (Text.trimmed e.version)
  kind := e.target.kind
  classifier := e.target.classifier

namespace DependencyAlignment

/-! ## The first of several dependencies -/

theorem sameDependency_iff {d e : Dependency} :
    sameDependency d e = true ↔ d.identity = e.identity := by
  simp [sameDependency, Dependency.identity, and_assoc]

/-- The dependencies of a list without those that differ at most in version and scope from an
earlier one. -/
def firsts (all : List Dependency) : List Dependency :=
  all.foldl (fun ds d => if ds.any (sameDependency · d) then ds else ds ++ [d]) []

theorem firsts_append (all : List Dependency) (d : Dependency) :
    firsts (all ++ [d]) =
      if d.identity ∈ (firsts all).map Dependency.identity then firsts all
      else firsts all ++ [d] := by
  have hany : (firsts all).any (sameDependency · d) = true ↔
      d.identity ∈ (firsts all).map Dependency.identity := by
    simp only [List.any_eq_true, sameDependency_iff, List.mem_map]
  rw [← if_congr hany rfl rfl, firsts, List.foldl_append]
  rfl

/-- Every identity is taken once, in the order of the first occurrences. -/
theorem identity_firsts (all : List Dependency) :
    (firsts all).map Dependency.identity = (all.map Dependency.identity).eraseDups := by
  -- from the end, where the last dependency is the one that is taken or not
  induction all using List.reverseRecOn with
  | nil => rfl
  | append_singleton all d ih =>
    have hmem : d.identity ∈ (firsts all).map Dependency.identity ↔
        d.identity ∈ all.map Dependency.identity := by
      rw [ih, List.mem_eraseDups]
    rw [firsts_append, if_congr hmem rfl rfl, List.map_append, List.eraseDups_append,
      List.map_singleton, List.removeAll]
    split
    · rename_i hold
      rw [List.filter_cons_of_neg (by simpa using hold), ih]
      exact (List.append_nil _).symm
    · rename_i hnew
      rw [List.filter_cons_of_pos (by simpa using hnew), List.map_append, ih]
      rfl

/-- What is taken is the first dependency with its identity. -/
theorem find?_of_mem_firsts {all : List Dependency} {d : Dependency} (hd : d ∈ firsts all) :
    all.find? (·.identity = d.identity) = some d := by
  induction all using List.reverseRecOn with
  | nil => exact absurd hd List.not_mem_nil
  | append_singleton all last ih =>
    rw [firsts_append] at hd
    rw [List.find?_append]
    split at hd
    · rw [ih hd]
      rfl
    · rename_i hnew
      rcases List.mem_append.mp hd with hd | hd
      · rw [ih hd]
        rfl
      · obtain rfl := List.mem_singleton.mp hd
        rw [identity_firsts, List.mem_eraseDups] at hnew
        have hnone : all.find? (·.identity = d.identity) = none := by
          refine List.find?_eq_none.mpr fun d' hd' hsame => hnew ?_
          rw [← of_decide_eq_true hsame]
          exact List.mem_map_of_mem hd'
        simp [hnone]

/-! ## Dependencies from entries -/

theorem injection?_eq (e : OverrideEntry) :
    injection? e = if Text.isBlank e.version then none else some e.addition := by
  rw [injection?, Text.nonBlank?]
  split <;> rfl

theorem mem_injections {overrides : OverrideMap} {managed : KeySet Artifact} {d : Dependency}
    (h : d ∈ injections overrides managed) : ∃ e ∈ overrides.entries, injection? e = some d := by
  have hmem := List.mem_of_find?_eq_some (find?_of_mem_firsts h)
  obtain ⟨e, he, hd⟩ := List.mem_filterMap.mp hmem
  exact ⟨e, (List.mem_filter.mp he).1, hd⟩

end DependencyAlignment

end BuildAlign
