import BuildAlign.Proofs.Version.HighestBuild
import BuildAlign.Proofs.Version.Labelled
import BuildAlign.Proofs.Version.OsgiReading
import BuildAlign.Proofs.Version.Plain
import BuildAlign.Versioning.Policy

/-!
What rebuilding with the next free build number gives: the version with the label appended, with one
more than the highest number of its base, and the snapshot marker if it is kept. This holds for a
label that replaces the one at the end of the version as well, since the version is among those that
are counted.
-/

namespace BuildAlign

namespace VersionPolicy

variable (policy : VersionPolicy)

@[simp] theorem base_settleSnapshot (v : Version) : (policy.settleSnapshot v).base = v.base := by
  rw [settleSnapshot]
  split <;> rfl

@[simp] theorem build_settleSnapshot (v : Version) : (policy.settleSnapshot v).build = v.build := by
  rw [settleSnapshot]
  split <;> rfl

@[simp] theorem core_settleSnapshot (v : Version) : (policy.settleSnapshot v).core = v.core := by
  rw [settleSnapshot]
  split <;> rfl

@[simp] theorem qualifier_settleSnapshot (v : Version) :
    (policy.settleSnapshot v).qualifier = v.qualifier := by
  rw [settleSnapshot]
  split <;> rfl

theorem tidy_settleSnapshot {v : Version} (hv : v.Tidy) : (policy.settleSnapshot v).Tidy := by
  rw [settleSnapshot]
  split
  · exact hv
  · exact hv.setSnapshot false

/-- A policy that appends a label with the next free build number, and a version it can be applied
to. -/
structure Rebuildable (policy : VersionPolicy) (label present : String) : Prop where
  suffix : policy.suffix = .incremental label
  label_words : Version.IsLabel label.toList
  start_plain : Version.IsPlain (policy.start present)
  start_room : Version.HasRoom (policy.start present)

def labelled (label present : String) : Version :=
  (Version.parse (policy.start present)).appendSuffix label.toList

def nextBuild (label present : String) (published : List String) : Nat :=
  (policy.labelled label present).highestBuild (published ++ [policy.start present]) + 1

/-- The rebuilt version of an incremental policy, before anything is known of its parts. -/
theorem rebuild_of_incremental {label : String} (h : policy.suffix = .incremental label)
    (present : String) (published : List String) :
    policy.rebuild present published =
      policy.settleSnapshot (raiseBuild (policy.labelled label present)
        (policy.nextBuild label present published)) := by
  simp only [rebuild, h]
  rfl

/-- Every known version of the base, the one that is rebuilt among them, has a smaller number than
the next free one, unless it has the greatest number of 64 bits. -/
theorem lt_nextBuild_of_known {label present : String} {published : List String} {text : String}
    {n : Nat} (htext : text ∈ published ++ [policy.start present])
    (hbase : (Version.parse text).base = (policy.labelled label present).base)
    (hn : (Version.parse text).buildNumber = some n) (hlt : n < Text.maxWord) :
    n < policy.nextBuild label present published :=
  Nat.lt_succ_of_le
    (Version.le_highestBuild htext (Version.countedBuild?_eq_some_iff.mpr ⟨hbase, hn, hlt⟩))

/-- A published version of the base has a smaller number than the next free one. -/
theorem lt_nextBuild {label present : String} {published : List String} {text : String} {n : Nat}
    (htext : text ∈ published) (hroom : Version.HasRoom text)
    (hbase : (Version.parse text).base = (policy.labelled label present).base)
    (hn : (Version.parse text).buildNumber = some n) :
    n < policy.nextBuild label present published :=
  policy.lt_nextBuild_of_known (List.mem_append_left _ htext) hbase hn
    (Nat.lt_of_succ_lt (hroom n hn))

namespace Rebuildable

variable {policy} {label present : String} (h : policy.Rebuildable label present)

include h

/-- A rebuilt version is the labelled one with the next free number. It is always set: the next
number exceeds the one that the labelled text may carry. -/
theorem rebuild_eq (published : List String) :
    policy.rebuild present published =
      policy.settleSnapshot
        ((policy.labelled label present).setBuild (policy.nextBuild label present published)) := by
  have hraise : ((policy.labelled label present).buildNumber).getD 0 <
      policy.nextBuild label present published := by
    rcases h.start_plain.tidy_parse.build_appendSuffix h.label_words with hnone | ⟨hbase, hbuild⟩
    · simp [labelled, Version.buildNumber, hnone, nextBuild]
    · -- a number that is kept is the version's own, and that is counted
      have hnumber : (policy.labelled label present).buildNumber =
          (Version.parse (policy.start present)).buildNumber := by
        rw [labelled, Version.buildNumber, hbuild, Version.buildNumber]
      rw [hnumber]
      cases hown : (Version.parse (policy.start present)).buildNumber with
      | none => exact Nat.succ_pos _
      | some n =>
        exact policy.lt_nextBuild_of_known (by simp) hbase.symm hown
          (Nat.lt_of_succ_lt (h.start_room n hown))
  rw [policy.rebuild_of_incremental h.suffix, raiseBuild, if_pos hraise]

theorem nextBuild_lt {published : List String} (hroom : ∀ text ∈ published, Version.HasRoom text) :
    policy.nextBuild label present published < Text.maxWord := by
  apply Version.highestBuild_lt
  intro text htext
  rcases List.mem_append.mp htext with htext | htext
  · exact hroom text htext
  · rw [List.mem_singleton.mp htext]
    exact h.start_room

theorem tidy_rebuild {published : List String} (hroom : ∀ text ∈ published, Version.HasRoom text) :
    (policy.rebuild present published).Tidy := by
  have hlabelled : (policy.labelled label present).Tidy :=
    h.start_plain.tidy_parse.appendSuffix h.label_words.splitSuffix_eq h.label_words nofun
  rw [h.rebuild_eq]
  exact policy.tidy_settleSnapshot (hlabelled.setBuild (Nat.le_of_lt (h.nextBuild_lt hroom)))

theorem base_rebuild (published : List String) :
    (policy.rebuild present published).base = (policy.labelled label present).base := by
  rw [h.rebuild_eq, base_settleSnapshot]
  rfl

/-- The number of a rebuilt version; one that is not there yet is attached with a dash. -/
theorem build_rebuild (published : List String) :
    ∃ b, (policy.rebuild present published).build = some b ∧
      b.value = policy.nextBuild label present published ∧
      b.separator =
        ((policy.labelled label present).build.map Version.Build.separator).getD '-' := by
  rw [h.rebuild_eq, build_settleSnapshot, Version.setBuild]
  cases (policy.labelled label present).build with
  | none => exact ⟨_, rfl, rfl, rfl⟩
  | some b => exact ⟨_, rfl, rfl, rfl⟩

theorem buildNumber_rebuild (published : List String) :
    (policy.rebuild present published).buildNumber =
      some (policy.nextBuild label present published) := by
  obtain ⟨b, hbuild, hvalue, _⟩ := h.build_rebuild published
  rw [Version.buildNumber, hbuild, Option.map_some, hvalue]

theorem segmented_rebuild (published : List String) :
    Version.Segmented (policy.rebuild present published).qualifier := by
  rw [h.rebuild_eq, qualifier_settleSnapshot]
  exact h.start_plain.tidy_parse.segmented_appendSuffix h.label_words

/-- Whether the OSGi form is read back does not depend on the number that is given. -/
theorem osgiReadable_rebuild (published : List String) :
    (policy.rebuild present published).OsgiReadable ↔
      (policy.labelled label present).OsgiReadable := by
  have hcore : (policy.rebuild present published).core = (policy.labelled label present).core := by
    rw [h.rebuild_eq, core_settleSnapshot]
    rfl
  have hqualifier : (policy.rebuild present published).qualifier =
      (policy.labelled label present).qualifier := by
    rw [h.rebuild_eq, qualifier_settleSnapshot]
    rfl
  have hdash : (∀ b ∈ (policy.rebuild present published).build, b.separator = '-') ↔
      ∀ b ∈ (policy.labelled label present).build, b.separator = '-' := by
    obtain ⟨b, hbuild, _, hseparator⟩ := h.build_rebuild published
    cases hlabelled : (policy.labelled label present).build with
    | none => simpa [hbuild, hlabelled] using hseparator
    | some b' =>
      rw [hlabelled] at hseparator
      simp [hbuild, hseparator]
  simp only [Version.osgiReadable_iff, hcore, hqualifier, hdash]

end Rebuildable

def fooPolicy : VersionPolicy where
  suffix := .incremental "foo"

theorem rebuildable_fooPolicy {text : String} (hplain : Version.IsPlain text)
    (hnumber : (Version.parse text).buildNumber = none) : fooPolicy.Rebuildable "foo" text where
  suffix := rfl
  label_words := .one ⟨⟨'f', ['o', 'o'], rfl, rfl⟩, List.all_eq_true.mp (by decide), by decide⟩
  start_plain := hplain
  start_room := fun _ hn => absurd (hnumber.symm.trans hn) nofun

end VersionPolicy

end BuildAlign
