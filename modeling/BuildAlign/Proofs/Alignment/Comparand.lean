import BuildAlign.Proofs.Alignment.KeptCore

/-!
What the strict check compares of a version. Of a version with a core it is the base and the build
number, and of any other one the text, so a version of one kind never agrees with one of the other.
Two versions agree exactly if what is compared of them is the same. Where the check ignores the
rebuild suffix of the present version as it does that of the candidate, it treats the two alike, and
is an equivalence of the versions that are not blank.
-/

namespace BuildAlign

/-- A version that is not blank. The strict check lets no other one pass. -/
abbrev NonBlankVersion :=
  { version : String // Text.isBlank version = false }

namespace StrictPolicy

/-- What is compared of a version. -/
inductive Comparand where
  | numbered (base : Version.Base) (build : Option Nat)
  | literal (text : String)
  deriving DecidableEq, Repr

def comparand (version : String) : Comparand :=
  let v := Version.parse version
  if v.core = [] then .literal version else .numbered v.base v.buildNumber

/-- Zero segments are dropped from the end of a core, but never the first segment. -/
theorem core_base_eq_nil (v : Version) : v.base.core = [] ↔ v.core = [] := by
  rw [Version.base]
  cases v.core with
  | nil => simp [Version.dropZeros]
  | cons first rest => simp [Version.dropZeros]

theorem comparand_of_core {version : String} (hcore : (Version.parse version).core ≠ []) :
    comparand version =
      .numbered (Version.parse version).base (Version.parse version).buildNumber := by
  unfold comparand
  simp [hcore]

theorem comparand_of_no_core {version : String} (hcore : (Version.parse version).core = []) :
    comparand version = .literal version := by
  unfold comparand
  simp [hcore]

/-- The check looks only at the core of the first version, but versions of the same base have a core
or have none together. -/
theorem agree_iff_comparand {a b : String} : agree a b = true ↔ comparand a = comparand b := by
  rw [agree_iff]
  constructor
  · rintro (rfl | ⟨hcore, hbase, hbuild⟩)
    · rfl
    · have hcore' : (Version.parse b).core ≠ [] := by
        rw [ne_eq, ← core_base_eq_nil, ← hbase, core_base_eq_nil]
        exact hcore
      rw [comparand_of_core hcore, comparand_of_core hcore', hbase, hbuild]
  · intro h
    by_cases hcore : (Version.parse a).core = []
    · by_cases hcore' : (Version.parse b).core = []
      · rw [comparand_of_no_core hcore, comparand_of_no_core hcore'] at h
        left
        simpa using h
      · rw [comparand_of_no_core hcore, comparand_of_core hcore'] at h
        cases h
    · by_cases hcore' : (Version.parse b).core = []
      · rw [comparand_of_core hcore, comparand_of_no_core hcore'] at h
        cases h
      · rw [comparand_of_core hcore, comparand_of_core hcore'] at h
        right
        exact ⟨hcore, by simpa using h⟩

variable {p : StrictPolicy}

theorem check_iff_comparand (hp : p.ignoreSuffix = true) (a b : NonBlankVersion) :
    p.check a b = true ↔ comparand (p.strip a) = comparand (p.strip b) := by
  rw [check, a.2, b.2, if_pos hp, ← agree_iff_comparand]
  simp

/-- Among versions that are not blank, a check that ignores the rebuild suffix of both is the
equivalence of having the same to compare, whatever the suffix is recognised by. -/
theorem check_equivalence (hp : p.ignoreSuffix = true) :
    Equivalence (fun a b : NonBlankVersion => p.check a b = true) ∧
      ∀ a b : NonBlankVersion,
        p.check a b = true ↔ comparand (p.strip a) = comparand (p.strip b) := by
  refine ⟨?_, check_iff_comparand hp⟩
  constructor
  · intro a
    exact (check_iff_comparand hp a a).mpr rfl
  · intro a b hab
    apply (check_iff_comparand hp b a).mpr
    exact ((check_iff_comparand hp a b).mp hab).symm
  · intro a b c hab hbc
    apply (check_iff_comparand hp a c).mpr
    exact ((check_iff_comparand hp a b).mp hab).trans ((check_iff_comparand hp b c).mp hbc)

/-- The check by a label that ignores the suffix of both versions. -/
def betweenRebuilds : StrictPolicy :=
  { StrictPolicy.ofLabel "redhat" false with ignoreSuffix := true }

/-- Rebuilds of one version may replace each other, however its zeros are written. -/
theorem check_equivalence_betweenRebuilds :
    betweenRebuilds.ignoreSuffix = true ∧
      Equivalence (fun a b : NonBlankVersion => betweenRebuilds.check a b = true) ∧
      betweenRebuilds.check "1.2.redhat-1" "1.2.0.redhat-7" = true ∧
      betweenRebuilds.check "1.2.0.redhat-7" "01.2" = true ∧
      betweenRebuilds.check "01.2" "1.2.redhat-1" = true ∧
      betweenRebuilds.check "1.2.redhat-1" "Final.redhat-1" = false := by
  obtain ⟨hequivalence, hiff⟩ := check_equivalence (p := betweenRebuilds) rfl
  let rebuilt : NonBlankVersion := ⟨"1.2.redhat-1", by decide +kernel⟩
  let padded : NonBlankVersion := ⟨"1.2.0.redhat-7", by decide +kernel⟩
  let plain : NonBlankVersion := ⟨"01.2", by decide +kernel⟩
  let word : NonBlankVersion := ⟨"Final.redhat-1", by decide +kernel⟩
  have hfirst : betweenRebuilds.check rebuilt padded = true :=
    (hiff rebuilt padded).mpr (by decide +kernel)
  have hsecond : betweenRebuilds.check padded plain = true :=
    (hiff padded plain).mpr (by decide +kernel)
  have hword : ¬ betweenRebuilds.check rebuilt word = true := by
    rw [hiff]
    decide +kernel
  refine ⟨rfl, hequivalence, hfirst, hsecond, ?_, by simpa using hword⟩
  exact hequivalence.symm (hequivalence.trans hfirst hsecond)

/-- A check that sees the suffix of the present version lets rebuilds replace a version, but not the
other way round. -/
example :
    (StrictPolicy.ofLabel "redhat" false).check "1.2" "1.2.redhat-1" = true ∧
      (StrictPolicy.ofLabel "redhat" false).check "1.2.redhat-1" "1.2" = false := by
  decide +kernel

end StrictPolicy

end BuildAlign
