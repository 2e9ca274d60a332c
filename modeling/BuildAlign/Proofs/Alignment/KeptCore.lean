import BuildAlign.Proofs.Alignment.OwnRebuild
import BuildAlign.Proofs.Version.Core

/-!
What the strict check lets pass keeps the numeric core. A rebuild suffix starts with a separator and
a letter, so wherever it is cut off, the cut falls behind the core, and the core that is read in
front of the cut is the one of the whole text; the same holds for the snapshot marker.
-/

namespace BuildAlign

namespace Version

/-! ## The numbers of a core -/

/-- The number of a segment of the core, and zero behind the last one. -/
def segmentNumber (v : Version) (i : Nat) : Nat :=
  (v.core[i]?.map Text.numeral).getD 0

theorem numeral_dropWhile_zero (s : List Char) :
    Text.numeral (s.dropWhile (· == '0')) = Text.numeral s := by
  induction s with
  | nil => rfl
  | cons c s ih =>
    rw [List.dropWhile_cons]
    split
    · rename_i hzero
      obtain rfl : c = '0' := by simpa using hzero
      exact ih
    · rfl

theorem numeral_bareSegment (segment : List Char) :
    Text.numeral (bareSegment segment) = Text.numeral segment := by
  rw [← numeral_dropWhile_zero segment, bareSegment]
  split
  · rename_i hnil
    rw [hnil]
    rfl
  · rfl

/-- What is dropped from a core are zero segments at its end. -/
theorem exists_dropZeros_append (core : List (List Char)) :
    ∃ n, core = dropZeros core ++ List.replicate n ['0'] := by
  cases core with
  | nil => exact ⟨0, rfl⟩
  | cons first rest =>
    have hzeros : (rest.reverse.takeWhile (· == ['0'])).reverse =
        List.replicate (rest.reverse.takeWhile (· == ['0'])).length ['0'] := by
      rw [List.reverse_eq_iff, List.reverse_replicate, List.eq_replicate_iff]
      exact ⟨rfl, fun s hs => by simpa using List.mem_takeWhile_imp hs⟩
    refine ⟨(rest.reverse.takeWhile (· == ['0'])).length, ?_⟩
    rw [dropZeros, List.cons_append, ← hzeros, ← List.reverse_append,
      List.takeWhile_append_dropWhile, List.reverse_reverse]

/-- Leading zeros of a segment and zero segments at the end have no part in the numbers. -/
theorem segmentNumber_eq (v : Version) (i : Nat) :
    v.segmentNumber i = (v.base.core[i]?.map Text.numeral).getD 0 := by
  obtain ⟨n, hcore⟩ := exists_dropZeros_append (v.core.map bareSegment)
  have hbare : ((v.core.map bareSegment)[i]?.map Text.numeral).getD 0 = v.segmentNumber i := by
    rw [List.getElem?_map, Option.map_map, segmentNumber]
    congr 2
    funext s
    exact numeral_bareSegment s
  rw [← hbare, base]
  dsimp only
  generalize dropZeros (v.core.map bareSegment) = core at hcore ⊢
  rw [hcore, List.getElem?_append]
  split
  · rfl
  · rename_i hbehind
    rw [List.getElem?_eq_none (Nat.not_lt.mp hbehind), List.getElem?_replicate]
    split <;> rfl

end Version

open Version

/-! ## Cutting a rebuild suffix off -/

namespace StrictPolicy

variable {p : StrictPolicy}

def StartsWithLetter (label : List Char) : Prop :=
  ∃ c s, label = c :: s ∧ c.isAlpha = true

/-- A version that is shortened ends in the rebuild suffix, behind what is left. -/
theorem strip_cases {label : List Char} (hp : p.suffix = some (.label label)) (version : String) :
    p.strip version = version ∨
      ∃ s, RebuildSuffix.isLabelled label s = true ∧ (p.strip version).toList ≠ [] ∧
        version.toList = (p.strip version).toList ++ s := by
  rw [strip, hp, Option.bind_some]
  split
  · rename_i i hstart
    right
    have hfind : (List.range version.toList.length).find?
        (fun i => RebuildSuffix.isLabelled label (version.toList.drop i)) = some (i + 1) := hstart
    have hlabelled := List.find?_some hfind
    refine ⟨version.toList.drop (i + 1), hlabelled, ?_, ?_⟩
    · have hlt := List.mem_range.mp (List.mem_of_find?_eq_some hfind)
      rw [String.toList_ofList, ← List.length_pos_iff, List.length_take]
      omega
    · rw [String.toList_ofList, List.take_append_drop]
  · exact .inl rfl

theorem endsCore_of_isLabelled {label s : List Char} (hlabel : StartsWithLetter label)
    (h : RebuildSuffix.isLabelled label s = true) : EndsCore s := by
  obtain ⟨c, tail, hc, _, rfl⟩ := RebuildSuffix.isLabelled_iff.mp h
  obtain ⟨d, later, rfl, hd⟩ := hlabel
  refine ⟨isDigit_of_isSeparator hc, fun _ e he => ?_⟩
  obtain rfl : d = e := by simpa using he
  exact isDigit_of_isAlpha hd

/-- A version keeps its core when its rebuild suffix is cut off. -/
theorem core_strip {label : List Char} (hp : p.suffix = some (.label label))
    (hlabel : StartsWithLetter label) {version : String}
    (hversion : ∀ c ∈ version.toList, isVersionChar c = true) :
    (parse (p.strip version)).core = (parse version).core := by
  rcases p.strip_cases hp version with hsame | ⟨s, hs, _, hcut⟩
  · rw [hsame]
  · have hfront : ∀ c ∈ (p.strip version).toList, isVersionChar c = true := by
      intro c hc
      exact hversion c (hcut ▸ List.mem_append_left s hc)
    rw [parse, parse, core_ofChars_of_isVersionChar hfront, core_ofChars_of_isVersionChar hversion,
      hcut, splitCore_of_append (endsCore_of_isLabelled hlabel hs)]

theorem core_base_congr {v w : Version} (h : v.core = w.core) : v.base.core = w.base.core := by
  rw [base, base, h]

/-- Versions agree by their texts or by what is compared of them. -/
theorem agree_iff {a b : String} : agree a b = true ↔
    a = b ∨ (parse a).core ≠ [] ∧ (parse a).base = (parse b).base ∧
      (parse a).buildNumber = (parse b).buildNumber := by
  simp [agree, sameBase, and_assoc]

theorem core_base_of_agree {a b : String} (h : agree a b = true) :
    (parse a).base.core = (parse b).base.core := by
  rcases agree_iff.mp h with rfl | ⟨_, hbase, _⟩
  · rfl
  · rw [hbase]

/-- A strict check by a label: one that was made for the label, or that of a configuration that has
no pattern and gives the label. -/
inductive ByLabel (label : String) : StrictPolicy → Prop
  | ofLabel (failOnViolation ignoreSuffix : Bool) :
      ByLabel label { StrictPolicy.ofLabel label failOnViolation with ignoreSuffix }
  | ofConfig {c : Config} {p : StrictPolicy}
      (no_pattern : c.alignment.strict.pattern.bind Text.nonBlank? = none)
      (rebuildLabel : c.rebuildLabel? = some label) (policy : StrictPolicy.ofConfig c = .ok p) :
      ByLabel label p

theorem ByLabel.suffix_eq {label : String} (h : ByLabel label p) :
    p.suffix = some (.label label.toList) := by
  cases h with
  | ofLabel failOnViolation ignoreSuffix => rfl
  | @ofConfig c p hpattern hlabel hpolicy =>
    rw [StrictPolicy.ofConfig, suffixOf, hpattern, hlabel] at hpolicy
    obtain rfl := Except.ok.inj hpolicy
    rfl

/-- A version may be replaced only by one with the same core, up to leading zeros of segments and
zero segments at the end, and so with the same numbers at all places. -/
theorem core_kept {label : String} (hp : ByLabel label p)
    (hlabel : StartsWithLetter label.toList) {present candidate : String}
    (hpresent : ∀ c ∈ present.toList, isVersionChar c = true)
    (hcandidate : ∀ c ∈ candidate.toList, isVersionChar c = true)
    (hcheck : p.check present candidate = true) :
    (parse present).base.core = (parse candidate).base.core ∧
      ∀ i, (parse present).segmentNumber i = (parse candidate).segmentNumber i := by
  have hstrip : ∀ {version : String}, (∀ c ∈ version.toList, isVersionChar c = true) →
      (parse (p.strip version)).base.core = (parse version).base.core := fun hversion =>
    core_base_congr (core_strip hp.suffix_eq hlabel hversion)
  obtain ⟨_, hagree⟩ := Bool.and_eq_true_iff.mp hcheck
  have hcore : (parse present).base.core = (parse candidate).base.core := by
    rw [← hstrip hcandidate, ← core_base_of_agree hagree]
    split
    · exact (hstrip hpresent).symm
    · rfl
  refine ⟨hcore, fun i => ?_⟩
  rw [segmentNumber_eq, segmentNumber_eq, hcore]

/-- A rebuild may be replaced by another one, of a version that is written with other zeros. -/
theorem core_kept_redhat :
    (parse "1.02.redhat-1").base.core = (parse "01.2.0_redhat-2").base.core ∧
      ∀ i, (parse "1.02.redhat-1").segmentNumber i = (parse "01.2.0_redhat-2").segmentNumber i :=
  have hp : ByLabel "redhat" { StrictPolicy.ofLabel "redhat" true with ignoreSuffix := true } :=
    .ofLabel true true
  core_kept hp ⟨'r', ['e', 'd', 'h', 'a', 't'], by decide, by decide⟩
    (List.all_eq_true.mp (by decide +kernel)) (List.all_eq_true.mp (by decide +kernel))
    (by decide +kernel)

end StrictPolicy

end BuildAlign
