import BuildAlign.Proofs.Version.Operations
import BuildAlign.Proofs.Versioning.Advance
import Mathlib.Logic.Function.Iterate

/-!
Rebuilding over and over with the next free build number. From the first time on a version ends with
the label of the suffix, and its number is not exceeded by any number that has a part in the count:
neither by that of a published version of its base nor by that of the suffix. So each further time
the version itself has the highest number, and the next one is one more.
-/

namespace BuildAlign

namespace Version

/-- Reading a build number back changes only the width that it is known to have. -/
theorem Tidy.written {v : Version} (hv : v.Tidy) : v.written.Tidy where
  core_ne_nil := hv.core_ne_nil
  core_numerals := hv.core_numerals
  separator_separates := hv.separator_separates
  qualifier_segmented := hv.qualifier_segmented
  boundary := hv.boundary
  build_legible := by
    intro b hb
    obtain ⟨b', hb', rfl⟩ := Option.map_eq_some_iff.mp hb
    exact ⟨(hv.build_legible b' hb').separator, (hv.build_legible b' hb').fits⟩
  snapshot_marker := hv.snapshot_marker
  separator_none := hv.separator_none
  build_dash := by
    intro hq b hb
    obtain ⟨b', hb', rfl⟩ := Option.map_eq_some_iff.mp hb
    exact hv.build_dash hq b' hb'
  unnumbered := fun hnone => hv.unnumbered (Option.map_eq_none_iff.mp hnone)
  unmarked := hv.unmarked

/-- A version that ends with an appended label, whatever its build number and marker are. -/
def EndsWithLabel (label : List Char) (v : Version) : Prop :=
  ∃ w build snapshot, w.Extensible ∧ v = { appendLabel w label with build, snapshot }

namespace EndsWithLabel

variable {label : List Char} {v : Version}

theorem withBuild (hv : EndsWithLabel label v) (build : Option Build) :
    EndsWithLabel label { v with build } := by
  obtain ⟨w, _, snapshot, hw, rfl⟩ := hv
  exact ⟨w, build, snapshot, hw, rfl⟩

theorem withSnapshot (hv : EndsWithLabel label v) (snapshot : Option (List Char)) :
    EndsWithLabel label { v with snapshot } := by
  obtain ⟨w, build, _, hw, rfl⟩ := hv
  exact ⟨w, build, snapshot, hw, rfl⟩

/-- Appending the suffix of the label once more changes only the build number. -/
theorem appendSuffix (hv : EndsWithLabel label v) {suffix : List Char} {number : Option Build}
    (hsuffix : splitSuffix suffix = (label, number)) (hl : IsLabel label) :
    v.appendSuffix suffix = { v with build := number.or v.build } := by
  obtain ⟨w, build, snapshot, hw, rfl⟩ := hv
  exact hw.appendSuffix_appendLabel hsuffix hl build snapshot

end EndsWithLabel

theorem Suffixed.endsWithLabel {suffix : List Char} {v : Version} (hv : Suffixed suffix v) :
    EndsWithLabel (splitSuffix suffix).1 v := by
  obtain ⟨w, label, number, hw, hsuffix, _, _, rfl⟩ := hv
  rw [hsuffix]
  exact ⟨w, _, _, hw, rfl⟩

end Version

namespace VersionPolicy

open Version

/-- A policy that appends a plain suffix to the present version, with the next free number. -/
structure CountsPlain (policy : VersionPolicy) (suffix : String) : Prop where
  no_override : policy.override = none
  incremental : policy.suffix = .incremental suffix
  plain : IsPlainSuffix suffix.toList

/-- The text of a version that is rebuilt several times, with the same published versions. -/
def rerun (policy : VersionPolicy) (a : Artifact) (c : Candidates) (raw : String) (times : Nat) :
    String :=
  (fun text => (policy.calculate a text c).render)^[times] raw

theorem rerun_succ (policy : VersionPolicy) (a : Artifact) (c : Candidates) (raw : String)
    (times : Nat) :
    policy.rerun a c raw (times + 1) =
      (policy.rebuild (policy.rerun a c raw times) (c.versions a)).render := by
  rw [rerun, Function.iterate_succ_apply']
  rfl

/-- A version that counts from itself on: no other number has a part in the next count. -/
structure Leads (suffix : List Char) (published : List String) (v : Version) : Prop where
  tidy : v.Tidy
  labelled : EndsWithLabel (splitSuffix suffix).1 v
  foremost : ∃ n, v.buildNumber = some n ∧ (∀ m, carriedNumber? suffix = some m → m ≤ n) ∧
    v.highestBuild published ≤ n

theorem Leads.tidy_parse {suffix : List Char} {published : List String} {v : Version}
    (hv : Leads suffix published v) : (parse v.render).Tidy := by
  rw [hv.tidy.legible.parse_render]
  exact hv.tidy.written

variable {policy : VersionPolicy} {suffix : String}

theorem tidy_raiseBuild {v : Version} (hv : v.Tidy) {n : Nat} (hn : n ≤ Text.maxWord) :
    (raiseBuild v n).Tidy := by
  rw [raiseBuild]
  split
  · exact hv.setBuild hn
  · exact hv

theorem endsWithLabel_raiseBuild {label : List Char} {v : Version} (hv : EndsWithLabel label v)
    (n : Nat) : EndsWithLabel label (raiseBuild v n) := by
  rw [raiseBuild]
  split
  · exact hv.withBuild _
  · exact hv

theorem endsWithLabel_settleSnapshot {label : List Char} {v : Version}
    (hv : EndsWithLabel label v) : EndsWithLabel label (policy.settleSnapshot v) := by
  rw [settleSnapshot]
  split
  · exact hv
  · exact hv.withSnapshot none

namespace CountsPlain

variable (h : policy.CountsPlain suffix)

include h

theorem labelled_eq (present : String) :
    policy.labelled suffix present = (parse present).appendSuffix suffix.toList := by
  rw [labelled, start, h.no_override, Option.getD_none]

theorem start_eq (present : String) : policy.start present = present := by
  rw [start, h.no_override, Option.getD_none]

/-- From the first time on the rebuilt version leads. -/
theorem leads_rebuild {present : String} (hpresent : (parse present).Tidy)
    (published : List String) :
    Leads suffix.toList published (policy.rebuild present published) := by
  have hlabelled := h.labelled_eq present
  have htidy : (policy.labelled suffix present).Tidy := by
    rw [hlabelled]
    exact h.plain.tidy_appendSuffix hpresent
  have hends : EndsWithLabel (splitSuffix suffix.toList).1 (policy.labelled suffix present) := by
    rw [hlabelled]
    exact (h.plain.suffixed hpresent).endsWithLabel
  refine ⟨?_, ?_, _, buildNumber_rebuild_of_incremental h.incremental present published, ?_, ?_⟩
  · rw [policy.rebuild_of_incremental h.incremental]
    exact policy.tidy_settleSnapshot (tidy_raiseBuild htidy (policy.nextBuild_le _ _ _))
  · rw [policy.rebuild_of_incremental h.incremental]
    exact endsWithLabel_settleSnapshot (endsWithLabel_raiseBuild hends _)
  · intro n hn
    rw [hlabelled, buildNumber_appendSuffix_of_carried hn, Option.getD_some]
    exact Nat.le_max_left _ _
  · rw [highestBuild, base_rebuild_of_incremental h.incremental, ← highestBuild]
    have hmore : (policy.labelled suffix present).highestBuild published ≤
        (policy.labelled suffix present).highestBuild (published ++ [policy.start present]) :=
      highestBuild_mono (List.subset_append_left _ _)
    exact Nat.le_trans (Nat.le_succ_of_le hmore) (Nat.le_max_right _ _)

/-- A version that leads is labelled already: appending the suffix changes at most its number, and
does not make it greater. -/
theorem exists_labelled_of_leads {published : List String} {v : Version}
    (hv : Leads suffix.toList published v) {n : Nat} (hn : v.buildNumber = some n) :
    ∃ build, policy.labelled suffix v.render = { v with build } ∧
      (build.map Build.value).getD 0 ≤ n := by
  obtain ⟨m, hm, hcarried, _⟩ := hv.foremost
  obtain rfl : m = n := Option.some.inj (hm.symm.trans hn)
  obtain ⟨label, number, hsuffix, hl, _⟩ := h.plain.splitSuffix_eq
  have hends : EndsWithLabel label v.written := by
    have hends := hv.labelled.withBuild (v.build.map Build.written)
    rwa [hsuffix] at hends
  refine ⟨number.or v.written.build, ?_, ?_⟩
  · rw [h.labelled_eq, hv.tidy.legible.parse_render]
    exact hends.appendSuffix hsuffix hl
  · cases hnumber : number with
    | none =>
      have hkept : v.written.buildNumber = some m := v.buildNumber_written.trans hm
      rw [Option.none_or, ← buildNumber, hkept]
      exact Nat.le_refl m
    | some b =>
      apply hcarried
      rw [carriedNumber?, hsuffix, hnumber]
      rfl

/-- The version itself is counted, and nothing that is counted has a higher number. -/
theorem nextBuild_of_leads {published : List String} {v : Version}
    (hv : Leads suffix.toList published v) {n : Nat} (hn : v.buildNumber = some n)
    (hlt : n < Text.maxWord) : policy.nextBuild suffix v.render published = n + 1 := by
  obtain ⟨m, hm, _, hpublished⟩ := hv.foremost
  obtain rfl : m = n := Option.some.inj (hm.symm.trans hn)
  obtain ⟨build, hlabelled, _⟩ := h.exists_labelled_of_leads hv hn
  have hbase : (policy.labelled suffix v.render).base = v.base := by
    rw [hlabelled]
    rfl
  have hown : countedBuild? v.base v.render = some m := by
    rw [countedBuild?_eq_some_iff, hv.tidy.legible.parse_render]
    exact ⟨v.base_written, v.buildNumber_written.trans hm, hlt⟩
  rw [nextBuild, h.start_eq, highestBuild_congr hbase, highestBuild_concat, hown,
    Option.getD_some, Nat.max_eq_right hpublished]

/-- A version that leads is rebuilt with one more, unless its number is the greatest one. -/
theorem rebuild_of_leads {published : List String} {v : Version}
    (hv : Leads suffix.toList published v) {n : Nat} (hn : v.buildNumber = some n)
    (hlt : n < Text.maxWord) :
    (policy.rebuild v.render published).core = v.core ∧
      (policy.rebuild v.render published).qualifier = v.qualifier ∧
      (policy.rebuild v.render published).buildNumber = some (n + 1) := by
  obtain ⟨build, hlabelled, hnumber⟩ := h.exists_labelled_of_leads hv hn
  refine ⟨?_, ?_, ?_⟩
  · rw [policy.rebuild_of_incremental h.incremental, core_settleSnapshot, core_raiseBuild,
      hlabelled]
  · rw [policy.rebuild_of_incremental h.incremental, qualifier_settleSnapshot, qualifier_raiseBuild,
      hlabelled]
  · rw [buildNumber_rebuild_of_incremental h.incremental, h.nextBuild_of_leads hv hn hlt, hlabelled,
      buildNumber, Nat.max_eq_right (Nat.le_succ_of_le hnumber)]

theorem exists_leads {raw : String} (hraw : IsPlain raw) (a : Artifact) (c : Candidates)
    (times : Nat) :
    ∃ v, Leads suffix.toList (c.versions a) v ∧ policy.rerun a c raw (times + 1) = v.render := by
  induction times with
  | zero => exact ⟨_, h.leads_rebuild hraw.tidy_parse (c.versions a), rfl⟩
  | succ times ih =>
    obtain ⟨v, hv, htext⟩ := ih
    refine ⟨_, h.leads_rebuild hv.tidy_parse (c.versions a), ?_⟩
    rw [policy.rerun_succ, htext]

end CountsPlain

/-- A policy that appends `bar-07` and counts from there, and keeps the snapshot marker. -/
def barCount : VersionPolicy where
  suffix := .incremental "bar-07"
  keepSnapshot := true

theorem countsPlain_barCount : barCount.CountsPlain "bar-07" where
  no_override := rfl
  incremental := rfl
  plain := isPlainSuffix_bar

/-- Published versions: one of the base, one of another base, and no version at all. -/
def barPublished : Candidates :=
  Table.ofList [({ group := "org.a", name := "lib" },
    ["1.2.0.GA.foo-3.BAR-11", "1.2.GA-bar-40", "garbage ["])]

end VersionPolicy

end BuildAlign
