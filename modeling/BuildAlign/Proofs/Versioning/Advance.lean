import BuildAlign.Proofs.Version.PlainSuffix
import BuildAlign.Proofs.Versioning.Rebuild

/-!
What the next free build number is beyond. Nothing is assumed of the texts here: the version, the
label and the published versions may be any, also ones that are not read as versions. The number is
the greater one of two: the number that the labelled version has already, which is that of the
suffix if it carries one, and the first one behind all that are counted.
-/

namespace BuildAlign

namespace Version

/-! ## Numbers of 64 bits -/

/-- A version without a build number of more than 64 bits. -/
def Fits (v : Version) : Prop :=
  ∀ n, v.buildNumber = some n → n ≤ Text.maxWord

theorem word?_le {digits : List Char} {n : Nat} (hn : Text.word? digits = some n) :
    n ≤ Text.maxWord := by
  obtain ⟨_, _, hfits, rfl⟩ := Text.word?_eq_some_iff.mp hn
  exact hfits

theorem value_splitBuild_le {s : List Char} {b : Build} (hb : b ∈ (splitBuild s).2) :
    b.value ≤ Text.maxWord := by
  unfold splitBuild at hb
  split at hb
  split at hb
  · rename_i hword
    split at hb
    · obtain rfl := Option.some.inj hb
      exact word?_le hword
    · cases hb
  · cases hb

theorem fits_parse (raw : String) : (parse raw).Fits := by
  intro n hn
  obtain ⟨b, hb, rfl⟩ := Option.map_eq_some_iff.mp hn
  unfold parse ofChars at hb
  split at hb
  · exact value_splitBuild_le hb
  · cases hb

/-! ## The number of a suffix -/

def carriedNumber? (suffix : List Char) : Option Nat :=
  (splitSuffix suffix).2.map Build.value

theorem carriedNumber?_le {suffix : List Char} {n : Nat} (hn : carriedNumber? suffix = some n) :
    n ≤ Text.maxWord := by
  obtain ⟨b, hb, rfl⟩ := Option.map_eq_some_iff.mp hn
  rcases splitSuffix_cases suffix with ⟨label, digits, m, -, hm, heq⟩ | heq | heq
  · rw [heq] at hb
    obtain rfl := Option.some.inj hb
    exact word?_le hm
  · rw [heq] at hb
    obtain ⟨m, hm, rfl⟩ := Option.map_eq_some_iff.mp hb
    exact word?_le hm
  · rw [heq] at hb
    cases hb

/-- The build number of a suffixed version is the carried one; without a carried one it is the
present one, or there is none. -/
theorem build_appendSuffix_cases (v : Version) (suffix : List Char) :
    (v.appendSuffix suffix).build = (splitSuffix suffix).2.or v.build ∨
      (v.appendSuffix suffix).build = (splitSuffix suffix).2 := by
  cases hsplit : splitSuffix suffix with
  | mk label number =>
    by_cases hempty : label = []
    · subst hempty
      rw [appendSuffix_of_no_label v hsplit]
      exact .inl rfl
    · rcases appendSuffix_cases v hsplit hempty with ⟨front, -, heq⟩ | ⟨-, heq⟩
      · rw [heq, build_appendLabel]
        exact .inl rfl
      · rw [heq, build_appendLabel]
        exact .inr rfl

theorem buildNumber_appendSuffix_of_carried {suffix : List Char} {n : Nat}
    (hn : carriedNumber? suffix = some n) (v : Version) :
    (v.appendSuffix suffix).buildNumber = some n := by
  obtain ⟨b, hb, rfl⟩ := Option.map_eq_some_iff.mp hn
  rcases v.build_appendSuffix_cases suffix with hbuild | hbuild
  · rw [buildNumber, hbuild, hb]
    rfl
  · rw [buildNumber, hbuild, hb]
    rfl

/-- Appending gives the number of the suffix or keeps one that is there, and both fit into 64 bits.
-/
theorem Fits.appendSuffix {v : Version} (hv : v.Fits) (suffix : List Char) :
    (v.appendSuffix suffix).Fits := by
  intro n hn
  obtain ⟨b, hb, rfl⟩ := Option.map_eq_some_iff.mp hn
  have hcarried : ∀ b' ∈ (splitSuffix suffix).2, b'.value ≤ Text.maxWord := fun b' hb' =>
    carriedNumber?_le (Option.map_eq_some_iff.mpr ⟨b', hb', rfl⟩)
  rcases v.build_appendSuffix_cases suffix with hbuild | hbuild
  · rw [hbuild] at hb
    rcases Option.or_eq_some_iff.mp hb with hb | ⟨_, hb⟩
    · exact hcarried b hb
    · exact hv b.value (Option.map_eq_some_iff.mpr ⟨b, hb, rfl⟩)
  · rw [hbuild] at hb
    exact hcarried b hb

end Version

namespace VersionPolicy

open Version

/-! ## Raising a number -/

@[simp] theorem base_raiseBuild (v : Version) (n : Nat) : (raiseBuild v n).base = v.base := by
  rw [raiseBuild]
  split <;> rfl

@[simp] theorem core_raiseBuild (v : Version) (n : Nat) : (raiseBuild v n).core = v.core := by
  rw [raiseBuild]
  split <;> rfl

@[simp] theorem qualifier_raiseBuild (v : Version) (n : Nat) :
    (raiseBuild v n).qualifier = v.qualifier := by
  rw [raiseBuild]
  split <;> rfl

/-- A raised number is the greater one of the present one and the one asked for. -/
theorem buildNumber_raiseBuild (v : Version) {n : Nat} (hn : 0 < n) :
    (raiseBuild v n).buildNumber = some (max (v.buildNumber.getD 0) n) := by
  rw [raiseBuild]
  split
  · rename_i hraise
    rw [buildNumber_setBuild, Nat.max_eq_right (Nat.le_of_lt hraise)]
  · rename_i hkeep
    have hle : n ≤ v.buildNumber.getD 0 := Nat.not_lt.mp hkeep
    rw [Nat.max_eq_left hle]
    cases hnumber : v.buildNumber with
    | none =>
      rw [hnumber] at hle
      exact absurd hn (Nat.not_lt.mpr hle)
    | some m => rfl

variable {policy : VersionPolicy} {suffix : String}

theorem base_rebuild_of_incremental (h : policy.suffix = .incremental suffix) (present : String)
    (published : List String) :
    (policy.rebuild present published).base = (policy.labelled suffix present).base := by
  rw [policy.rebuild_of_incremental h, base_settleSnapshot, base_raiseBuild]

theorem buildNumber_rebuild_of_incremental (h : policy.suffix = .incremental suffix)
    (present : String) (published : List String) :
    (policy.rebuild present published).buildNumber =
      some (max ((policy.labelled suffix present).buildNumber.getD 0)
        (policy.nextBuild suffix present published)) := by
  rw [policy.rebuild_of_incremental h, buildNumber, build_settleSnapshot]
  exact buildNumber_raiseBuild _ (Nat.succ_pos _)

/-- The next number is within 64 bits, since the greatest number of 64 bits is not counted. -/
theorem nextBuild_le (policy : VersionPolicy) (suffix present : String) (published : List String) :
    policy.nextBuild suffix present published ≤ Text.maxWord :=
  highestBuild_lt_maxWord _ _

/-- The next number is the first one, or there is a known version of the base with the number
before it. -/
theorem nextBuild_attained (policy : VersionPolicy) (suffix present : String)
    (published : List String) :
    policy.nextBuild suffix present published = 1 ∨
      ∃ text ∈ published ++ [policy.start present],
        (parse text).base = (policy.labelled suffix present).base ∧
        (parse text).buildNumber = some (policy.nextBuild suffix present published - 1) := by
  rcases highestBuild_attained (policy.labelled suffix present)
      (published ++ [policy.start present]) with hzero | ⟨text, htext, hcounted⟩
  · exact .inl (congrArg (· + 1) hzero)
  · obtain ⟨hbase, hn, _⟩ := countedBuild?_eq_some_iff.mp hcounted
    exact .inr ⟨text, htext, hbase, hn⟩

theorem labelled_le (policy : VersionPolicy) (suffix present : String) :
    (policy.labelled suffix present).buildNumber.getD 0 ≤ Text.maxWord := by
  cases hnumber : (policy.labelled suffix present).buildNumber with
  | none => exact Nat.zero_le _
  | some n => exact (fits_parse _).appendSuffix _ n hnumber

/-- The number of a rebuilt version is the one that it has with the suffix, or the next one. -/
theorem max_nextBuild_cases (policy : VersionPolicy) (suffix present : String)
    (published : List String) :
    (policy.labelled suffix present).buildNumber =
        some (max ((policy.labelled suffix present).buildNumber.getD 0)
          (policy.nextBuild suffix present published)) ∨
      max ((policy.labelled suffix present).buildNumber.getD 0)
        (policy.nextBuild suffix present published) =
          policy.nextBuild suffix present published := by
  rcases Nat.le_total (policy.nextBuild suffix present published)
      ((policy.labelled suffix present).buildNumber.getD 0) with hle | hle
  · -- there is a number, since the next one is positive
    rw [Nat.max_eq_left hle]
    cases hnumber : (policy.labelled suffix present).buildNumber with
    | none =>
      rw [hnumber] at hle
      exact absurd hle (Nat.not_succ_le_zero _)
    | some n => exact .inl rfl
  · exact .inr (Nat.max_eq_right hle)

/-- A policy with an incremental suffix gives every version a build number. The number is beyond
that of every known version of the same base, the version itself among them, unless that one is the
greatest number of 64 bits; it is not below the number of the suffix; and it is no higher than that
takes. All of this stays within 64 bits. -/
theorem calculate_advances (h : policy.suffix = .incremental suffix) (a : Artifact)
    (present : String) (c : Candidates) :
    policy.nextBuild suffix present (c.versions a) ≤ Text.maxWord ∧
    ∃ b, (policy.calculate a present c).buildNumber = some b ∧ 1 ≤ b ∧ b ≤ Text.maxWord ∧
      (∀ text ∈ c.versions a ++ [policy.start present],
        (policy.calculate a present c).sameBase (parse text) = true →
        ∀ n, (parse text).buildNumber = some n → n < Text.maxWord → n < b) ∧
      (∀ n, carriedNumber? suffix.toList = some n → n ≤ b) ∧
      (b = 1 ∨ (policy.labelled suffix present).buildNumber = some b ∨
        ∃ text ∈ c.versions a ++ [policy.start present],
          (policy.calculate a present c).sameBase (parse text) = true ∧
          (parse text).buildNumber = some (b - 1)) := by
  have hbase := base_rebuild_of_incremental h present (c.versions a)
  have hsame : ∀ text, (policy.calculate a present c).sameBase (parse text) = true ↔
      (parse text).base = (policy.labelled suffix present).base := by
    intro text
    rw [calculate, sameBase, hbase, beq_iff_eq]
    exact eq_comm
  have hnext := policy.nextBuild_le suffix present (c.versions a)
  refine ⟨hnext, _, buildNumber_rebuild_of_incremental h present (c.versions a), ?_, ?_, ?_, ?_, ?_⟩
  · exact Nat.le_trans (Nat.succ_pos _) (Nat.le_max_right _ _)
  · exact Nat.max_le.mpr ⟨policy.labelled_le suffix present, hnext⟩
  · intro text htext hbase n hn hlt
    have hbeyond := policy.lt_nextBuild_of_known htext ((hsame text).mp hbase) hn hlt
    exact Nat.lt_of_lt_of_le hbeyond (Nat.le_max_right _ _)
  · intro n hn
    rw [labelled, buildNumber_appendSuffix_of_carried hn, Option.getD_some]
    exact Nat.le_max_left _ _
  · rcases policy.max_nextBuild_cases suffix present (c.versions a) with hkept | hnew
    · exact .inr (.inl hkept)
    · rw [hnew]
      refine (policy.nextBuild_attained suffix present (c.versions a)).imp id fun hknown => .inr ?_
      obtain ⟨text, htext, hbase, hn⟩ := hknown
      exact ⟨text, htext, (hsame text).mpr hbase, hn⟩

end VersionPolicy

end BuildAlign
