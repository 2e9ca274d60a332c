import BuildAlign.Proofs.Versioning.Rebuild

/-!
The next free build number and the published versions. A version that is handed out is not a
published one, because reading it gives the base and the number it was made with, and that number is
greater than all published ones of the base. In OSGi form this needs a version whose OSGi form is
read back; for any other one there are published versions that contain what is handed out.
-/

namespace BuildAlign

namespace Version

theorem Tidy.parse_renderAs {v : Version} (hv : v.Tidy) (hq : Segmented v.qualifier) {b : Build}
    (hbuild : v.build = some b) {osgi : Bool} (hread : osgi = true → v.OsgiReadable) :
    (parse (v.renderAs osgi)).base = v.base ∧
      (parse (v.renderAs osgi)).buildNumber = v.buildNumber := by
  cases osgi with
  | false =>
    rw [renderAs, if_neg Bool.false_ne_true, hv.legible.parse_render]
    exact ⟨base_written v, buildNumber_written v⟩
  | true =>
    rw [renderAs, if_pos rfl, parse, renderOsgi, String.toList_ofList]
    exact osgi_reads_back hv hq hbuild (hread rfl)

/-- The number of an OSGi form has room if it is read at all and has room in the version. -/
theorem Tidy.hasRoom_renderOsgi_iff {v : Version} (hv : v.Tidy) (hq : Segmented v.qualifier)
    {b : Build} (hbuild : v.build = some b) :
    HasRoom (v.renderAs true) ↔ (b.separator = '-' → b.value + 1 < Text.maxWord) := by
  rw [renderAs, if_pos rfl, HasRoom, parse, renderOsgi, String.toList_ofList,
    buildNumber_osgi hv hq hbuild]
  by_cases hdash : b.separator = '-'
  · simp [hdash]
  · simp [hdash]

end Version

namespace VersionPolicy

open Version

variable {policy : VersionPolicy} {label present : String}

namespace Rebuildable

variable (h : policy.Rebuildable label present)

include h

/-- A rebuilt version is not published yet if its written form is read back: a published text of the
same base has a smaller number. -/
theorem renderAs_not_mem {published : List String} {osgi : Bool}
    (hread : osgi = true → (policy.labelled label present).OsgiReadable)
    (hroom : ∀ text ∈ published, HasRoom text) :
    (policy.rebuild present published).renderAs osgi ∉ published := by
  intro hmem
  obtain ⟨b, hbuild, _⟩ := h.build_rebuild published
  obtain ⟨hbase, hnumber⟩ := (h.tidy_rebuild hroom).parse_renderAs (h.segmented_rebuild published)
    hbuild fun hosgi => (h.osgiReadable_rebuild published).mpr (hread hosgi)
  rw [h.base_rebuild] at hbase
  rw [h.buildNumber_rebuild] at hnumber
  exact Nat.lt_irrefl _ (policy.lt_nextBuild hmem (hroom _ hmem) hbase hnumber)

/-- What is misread is not counted, so publishing it changes nothing. -/
theorem rebuild_published (hread : ¬ (policy.labelled label present).OsgiReadable) :
    policy.rebuild present [(policy.rebuild present []).renderAs true] =
      policy.rebuild present [] := by
  obtain ⟨b, hbuild, _⟩ := h.build_rebuild []
  have htidy : (policy.rebuild present []).Tidy := h.tidy_rebuild (by simp)
  have hmisread := osgi_is_misread htidy (h.segmented_rebuild []) hbuild
    (mt (h.osgiReadable_rebuild []).mp hread)
  have hcounted : countedBuild? (policy.labelled label present).base
      ((policy.rebuild present []).renderAs true) = none := by
    rw [← h.base_rebuild []]
    cases hcount : countedBuild? _ _ with
    | none => rfl
    | some n =>
      obtain ⟨hbase, hn, _⟩ := countedBuild?_eq_some_iff.mp hcount
      rw [renderAs, if_pos rfl, parse, renderOsgi, String.toList_ofList] at hbase hn
      rcases hmisread with hother | hnone
      · exact absurd hbase hother
      · rw [hnone] at hn
        cases hn
  rw [h.rebuild_eq, nextBuild, List.singleton_append, highestBuild_cons_of_not_counted hcounted,
    h.rebuild_eq, nextBuild, List.nil_append]

/-- With fewer published versions the OSGi form has room all the more. -/
theorem hasRoom_of_published {published : List String} (hroom : ∀ text ∈ published, HasRoom text)
    (hpublished : HasRoom ((policy.rebuild present published).renderAs true)) :
    HasRoom ((policy.rebuild present []).renderAs true) := by
  obtain ⟨b, hbuild, hvalue, hseparator⟩ := h.build_rebuild published
  obtain ⟨b', hbuild', hvalue', hseparator'⟩ := h.build_rebuild []
  rw [(h.tidy_rebuild hroom).hasRoom_renderOsgi_iff (h.segmented_rebuild published) hbuild, hvalue,
    hseparator] at hpublished
  rw [(h.tidy_rebuild (by simp)).hasRoom_renderOsgi_iff (h.segmented_rebuild []) hbuild', hvalue',
    hseparator']
  intro hdash
  have hle : policy.nextBuild label present [] ≤ policy.nextBuild label present published :=
    Nat.succ_le_succ (highestBuild_mono (by simp))
  exact Nat.lt_of_le_of_lt (Nat.succ_le_succ hle) (hpublished hdash)

end Rebuildable

/-- When some published versions contain the version that is handed out next: in OSGi form only, for
a version whose OSGi form is not read back, and as long as its number has room. In all other cases a
published version is never handed out, whatever is published. -/
theorem hands_out_published_iff (h : policy.Rebuildable label present) (a : Artifact)
    (osgi : Bool) :
    (∃ c : Candidates, (∀ text ∈ c.versions a, HasRoom text) ∧
      (policy.calculate a present c).renderAs osgi ∈ c.versions a) ↔
    osgi = true ∧ ¬ (policy.labelled label present).OsgiReadable ∧
      HasRoom ((policy.calculate a present ∅).renderAs osgi) := by
  constructor
  · rintro ⟨c, hroom, hmem⟩
    have hread : ¬ (osgi = true → (policy.labelled label present).OsgiReadable) :=
      fun hread => h.renderAs_not_mem hread hroom hmem
    obtain ⟨rfl, hunreadable⟩ := Classical.not_imp.mp hread
    exact ⟨rfl, hunreadable, h.hasRoom_of_published hroom (hroom _ hmem)⟩
  · rintro ⟨rfl, hunreadable, hroom⟩
    have hversions : Candidates.versions
        (Table.insert ∅ a [(policy.calculate a present ∅).renderAs true]) a =
          [(policy.calculate a present ∅).renderAs true] := by
      rw [Candidates.versions, Table.getD, Table.get?_insert, if_pos rfl, Option.getD_some]
    refine ⟨Table.insert ∅ a [(policy.calculate a present ∅).renderAs true], ?_, ?_⟩
    · rw [hversions]
      intro text htext
      rwa [List.mem_singleton.mp htext]
    · rw [hversions, List.mem_singleton, calculate, hversions]
      exact congrArg (renderAs · true) (h.rebuild_published hunreadable)

def someArtifact : Artifact where
  group := "org.a"
  name := "lib"

theorem hands_out_published_fiveSegments :
    ∃ c : Candidates, (∀ text ∈ c.versions someArtifact, HasRoom text) ∧
      (fooPolicy.calculate someArtifact "1.2.3.4.5" c).renderAs true ∈
        c.versions someArtifact := by
  have hplain : IsPlain "1.2.3.4.5" :=
    isPlain_core [['1'], ['2'], ['3'], ['4'], ['5']] (by simp) (by decide) rfl
  have hnone : (parse "1.2.3.4.5").buildNumber = none := by decide +kernel
  have hlength : (fooPolicy.labelled "foo" "1.2.3.4.5").core.length = 5 := by decide +kernel
  have hnumber :
      (parse ((fooPolicy.calculate someArtifact "1.2.3.4.5" ∅).renderAs true)).buildNumber =
        some 1 := by
    decide +kernel
  refine (hands_out_published_iff (rebuildable_fooPolicy hplain hnone) someArtifact true).mpr
    ⟨rfl, ?_, ?_⟩
  · intro hread
    exact absurd hread.core_survives (by omega)
  · intro n hn
    obtain rfl : 1 = n := Option.some.inj (hnumber.symm.trans hn)
    decide

/-- What is published of the artifact: one version, which was made from `1.2.3.4.5` before. -/
def onePublished : Candidates :=
  Table.insert ∅ someArtifact ["1.2.3.4_5_foo-1"]

theorem published_version_handed_out :
    (∀ text ∈ onePublished.versions someArtifact, HasRoom text) ∧
      (fooPolicy.calculate someArtifact "1.2.3.4.5" onePublished).renderAs true ∈
        onePublished.versions someArtifact := by
  have hversions : onePublished.versions someArtifact = ["1.2.3.4_5_foo-1"] := by
    rw [onePublished, Candidates.versions, Table.getD, Table.get?_insert, if_pos rfl]
    rfl
  have hnumber : (parse "1.2.3.4_5_foo-1").buildNumber = some 1 := by decide +kernel
  have htext : (fooPolicy.rebuild "1.2.3.4.5" ["1.2.3.4_5_foo-1"]).renderAs true =
      "1.2.3.4_5_foo-1" := by
    decide +kernel
  rw [calculate, hversions, htext]
  refine ⟨?_, List.mem_singleton_self _⟩
  intro text htext n hn
  rw [List.mem_singleton.mp htext, hnumber] at hn
  obtain rfl : 1 = n := Option.some.inj hn
  decide

end VersionPolicy

end BuildAlign
