import BuildAlign.Proofs.Reactor.Reference
import BuildAlign.Reactor.Property

/-!
Texts that stand for the version of a module. The guard walks from alias to alias until it meets a
name for the version; interpolation expands the text, its value, and so on. Where a version is
written without references, both end at the same text: the walk is an expansion in which every text
is one reference, and its bound is less than that of interpolation.
-/

namespace BuildAlign.Reactor

/-- A text leads through a number of aliases to the version of a module: to a name for it, or to a
name for the version of the declared parent where the module has none of its own. -/
inductive ReachesVersion (r : Reactor) (id : Nat) : Nat → String → Prop
  | own {raw name : String} (single : Template.single? raw = some name)
      (part : ProjectPart.ofName? name = some .version) : ReachesVersion r id 0 raw
  | inherited {raw name : String} (single : Template.single? raw = some name)
      (part : ProjectPart.ofName? name = some .parentVersion)
      (inherits : (r.module id).version = none) : ReachesVersion r id 0 raw
  | through {aliases : Nat} {raw name next : String} (single : Template.single? raw = some name)
      (property : ProjectPart.ofName? name = none) (value : r.lookup id name = some next)
      (rest : ReachesVersion r id aliases next) : ReachesVersion r id (aliases + 1) raw

variable {r : Reactor} {id : Nat}

/-! ## The guard -/

/-- What the guard follows does lead to the version of the module. -/
theorem exists_of_followsVersion {n : Nat} {raw : String} (h : r.followsVersion id n raw = true) :
    ∃ aliases < n, r.ReachesVersion id aliases raw := by
  induction n generalizing raw with
  | zero => cases h
  | succ n ih =>
    rw [followsVersion] at h
    cases hsingle : Template.single? raw with
    | none => simp [hsingle] at h
    | some name =>
      simp only [hsingle] at h
      cases hpart : ProjectPart.ofName? name with
      | none =>
        simp only [hpart] at h
        cases hvalue : r.lookup id name with
        | none => simp [hvalue] at h
        | some next =>
          simp only [hvalue] at h
          obtain ⟨aliases, hlt, hreaches⟩ := ih h
          exact ⟨aliases + 1, Nat.succ_lt_succ hlt, .through hsingle hpart hvalue hreaches⟩
      | some part =>
        cases part with
        | version => exact ⟨0, Nat.succ_pos n, .own hsingle hpart⟩
        | parentVersion =>
          simp only [hpart, Option.isNone_iff_eq_none] at h
          exact ⟨0, Nat.succ_pos n, .inherited hsingle hpart h⟩
        | group | name | parentGroup => simp [hpart] at h

/-- The guard sees a version that few enough aliases lead to. -/
theorem ReachesVersion.followsVersion {aliases : Nat} {raw : String}
    (h : r.ReachesVersion id aliases raw) {n : Nat} (hn : aliases < n) :
    r.followsVersion id n raw = true := by
  induction h generalizing n with
  | own single part =>
    obtain ⟨n, rfl⟩ := Nat.exists_eq_succ_of_ne_zero (Nat.ne_of_gt hn)
    simp only [Reactor.followsVersion, single, part]
  | inherited single part inherits =>
    obtain ⟨n, rfl⟩ := Nat.exists_eq_succ_of_ne_zero (Nat.ne_of_gt hn)
    simp only [Reactor.followsVersion, single, part, inherits, Option.isNone_none]
  | through single property value _ ih =>
    obtain ⟨n, rfl⟩ : ∃ k, n = k + 1 := ⟨n - 1, by omega⟩
    simp only [Reactor.followsVersion, single, property, value]
    exact ih (Nat.lt_of_succ_lt_succ hn)

/-- The guard follows the chains that are shorter than its bound, and no others. -/
theorem followsVersion_iff {n : Nat} {raw : String} :
    r.followsVersion id n raw = true ↔ ∃ aliases < n, r.ReachesVersion id aliases raw :=
  ⟨exists_of_followsVersion, fun ⟨_, hn, h⟩ => h.followsVersion hn⟩

/-! ## Interpolation -/

/-- A text that is one reference is expanded to what the text behind its name is expanded to. -/
theorem expand_of_single {raw name value : String} (hsingle : Template.single? raw = some name)
    (hvalue : r.lookup id name = some value) (depth : Nat) :
    r.expand id (depth + 1) raw.toList = r.expand id depth value.toList := by
  obtain ⟨rfl, hclosing⟩ := Template.single?_eq_some hsingle
  exact r.expand_referenceText id depth hclosing hvalue

/-- Expanded deeper than there are aliases, the text is the version. -/
theorem ReachesVersion.expand {aliases : Nat} {raw version : String}
    (h : r.ReachesVersion id aliases raw)
    (hversion : (r.module id).writtenVersion = some version)
    (hconcrete : Template.hasReference version = false) {depth : Nat} (hdepth : aliases < depth) :
    r.expand id depth raw.toList = version.toList := by
  have hlast : ∀ {raw name : String}, Template.single? raw = some name →
      r.lookup id name = some version → ∀ {depth : Nat}, 0 < depth →
      r.expand id depth raw.toList = version.toList := by
    intro raw name hsingle hvalue depth hdepth
    obtain ⟨depth, rfl⟩ := Nat.exists_eq_succ_of_ne_zero (Nat.ne_of_gt hdepth)
    rw [expand_of_single hsingle hvalue, r.expand_of_not_hasReference id depth hconcrete]
  induction h generalizing depth with
  | own single part =>
    refine hlast single ?_ hdepth
    simp only [lookup, part]
    exact hversion
  | inherited single part inherits =>
    -- a module without a version of its own has the version of its parent
    refine hlast single ?_ hdepth
    simp only [lookup, part]
    rwa [Module.writtenVersion, inherits] at hversion
  | through single property value _ ih =>
    obtain ⟨depth, rfl⟩ : ∃ k, depth = k + 1 := ⟨depth - 1, by omega⟩
    rw [expand_of_single single value]
    exact ih (Nat.lt_of_succ_lt_succ hdepth)

/-- The guard accepts the texts that lead to the version of the module through less than `maxDepth`
aliases. Where that version is written without references, own or inherited, each of these texts is
resolved to it. -/
theorem own_version_resolved {version : String}
    (hversion : (r.module id).writtenVersion = some version)
    (hconcrete : Template.hasReference version = false) (raw : String) :
    (r.isOwnVersion id raw = true ↔ ∃ aliases < maxDepth, r.ReachesVersion id aliases raw) ∧
      (r.isOwnVersion id raw = true →
        r.resolve id raw = version ∧ r.version? id = some version) := by
  refine ⟨followsVersion_iff, fun hown => ?_⟩
  obtain ⟨aliases, hlt, hreaches⟩ := exists_of_followsVersion hown
  constructor
  · rw [resolve, hreaches.expand hversion hconcrete (Nat.lt_succ_of_lt hlt), String.ofList_toList]
  · rw [version?, hversion, Option.map_some, r.resolve_of_not_hasReference id hconcrete]

/-- A module with as many aliases as the guard follows, each of the next one. The last one is the
version of the module, or that of the parent if the module inherits it. -/
def aliasedVersion (inherits : Bool) : Reactor where
  modules := [
    { group := some "org.app", name := "app"
      version := if inherits then none else some "2.0"
      parent := some { group := "org.app", name := "parent", version := "2.0" }
      body :=
        { properties := Table.ofList
            (("v14", if inherits then "$\x7bparent.version\x7d" else "$\x7bversion\x7d") ::
              (List.range 14).map fun i =>
                ("v" ++ toString i, "$\x7bv" ++ toString (i + 1) ++ "\x7d")) } }]
  forest := forest_of_checks (by simp) rfl rfl

theorem own_version_resolved_aliased :
    (aliasedVersion true).resolve 0 "$\x7bv0\x7d" = "2.0" ∧
      (aliasedVersion false).resolve 0 "$\x7bv0\x7d" = "2.0" := by
  have hown : ∀ inherits, (aliasedVersion inherits).isOwnVersion 0 "$\x7bv0\x7d" = true := by
    decide +kernel
  have hversion : ∀ inherits,
      ((aliasedVersion inherits).module 0).writtenVersion = some "2.0" := by
    decide
  have hconcrete : Template.hasReference "2.0" = false := by decide
  constructor
  · exact ((own_version_resolved (hversion true) hconcrete _).2 (hown true)).1
  · exact ((own_version_resolved (hversion false) hconcrete _).2 (hown false)).1

end BuildAlign.Reactor
