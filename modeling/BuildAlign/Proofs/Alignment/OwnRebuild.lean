import BuildAlign.Proofs.Alignment.StrictCheck
import BuildAlign.Proofs.Version.Operations
import BuildAlign.Proofs.Versioning.Rebuild
import BuildAlign.Proofs.Versioning.SuffixLabel

/-!
Rebuilt versions pass the strict check. The label of the suffix that a configuration appends is the
one that the check looks for. It is recognised at one place only, namely where it was appended, and
what stands in front of it is the version of before, up to the snapshot marker.
-/

namespace BuildAlign

open Version

/-! ## Where a label is recognised -/

namespace RebuildSuffix

theorem isAlpha_of_mem_buildTail {tail : List Char} (h : isBuildTail tail = true) {c : Char}
    (hc : c ∈ tail) : c.isAlpha = false := by
  cases tail with
  | nil => cases hc
  | cons d digits =>
    obtain ⟨hjoint, hdigits⟩ := Bool.and_eq_true_iff.mp h
    obtain ⟨hseparator, _⟩ := Bool.and_eq_true_iff.mp hjoint
    rcases List.mem_cons.mp hc with rfl | hc
    · exact isAlpha_of_isSeparator hseparator
    · rw [← Bool.not_eq_true]
      intro halpha
      have hdigit := List.all_eq_true.mp hdigits c hc
      rw [unicodeDigit_of_isAlpha halpha] at hdigit
      cases hdigit

theorem isLabelled_iff {label s : List Char} : isLabelled label s = true ↔
    ∃ c tail, isSeparator c = true ∧ isBuildTail tail = true ∧ s = c :: (label ++ tail) := by
  cases s with
  | nil => simp [isLabelled]
  | cons c s =>
    rw [isLabelled, Bool.and_eq_true, Option.any_eq_true]
    constructor
    · rintro ⟨hc, tail, hafter, htail⟩
      exact ⟨c, tail, hc, htail, by rw [Text.after?_eq_some_iff.mp hafter]⟩
    · rintro ⟨_, tail, hc, htail, heq⟩
      obtain ⟨rfl, rfl⟩ := List.cons.inj heq
      exact ⟨hc, tail, Text.after?_eq_some_iff.mpr rfl, htail⟩

/-- Of two texts with the label at the end none is a proper part of the other: they have the same
letters, and a label starts with one. -/
theorem eq_nil_of_isLabelled_append {label front s : List Char} (hl : Version.IsLabel label)
    (h : isLabelled label s = true) (hlonger : isLabelled label (front ++ s) = true) :
    front = [] := by
  obtain ⟨c, tail, hc, htail, rfl⟩ := isLabelled_iff.mp h
  obtain ⟨c', tail', hc', htail', heq⟩ := isLabelled_iff.mp hlonger
  have hletters : ∀ {tail : List Char}, isBuildTail tail = true → tail.countP Char.isAlpha = 0 :=
    fun htail => List.countP_eq_zero.mpr fun d hd => by
      simp [isAlpha_of_mem_buildTail htail hd]
  have hfront : front.countP Char.isAlpha = 0 := by
    have hcount := congrArg (List.countP Char.isAlpha) heq
    simp only [List.countP_append, List.countP_cons, isAlpha_of_isSeparator hc,
      isAlpha_of_isSeparator hc', hletters htail, hletters htail'] at hcount
    simpa using hcount
  cases front with
  | nil => rfl
  | cons d front =>
    obtain ⟨_, hrest⟩ := List.cons.inj heq
    obtain ⟨a, later, rfl⟩ := List.exists_cons_of_ne_nil hl.ne_nil
    have ha : a.isAlpha = true := hl.head_isAlpha rfl
    cases front with
    | nil =>
      obtain ⟨rfl, _⟩ := List.cons.inj hrest
      rw [isAlpha_of_isSeparator hc] at ha
      cases ha
    | cons b front =>
      obtain ⟨rfl, _⟩ := List.cons.inj hrest
      exact absurd ha (List.countP_eq_zero.mp hfront b (by simp))

theorem isBuildTail_chars {b : Build} (hb : isSeparator b.separator = true) :
    isBuildTail b.chars = true := by
  have hne : b.digits.isEmpty = false :=
    Bool.eq_false_iff.mpr (mt List.isEmpty_iff.mp b.digits_ne_nil)
  have hdigits : b.digits.all Unicode.isDigit = true :=
    List.all_eq_true.mpr fun d hd => unicodeDigit_of_isDigit (Build.isDigit_of_mem_digits hd)
  rw [Build.chars, isBuildTail, hb, hne, hdigits]
  rfl

/-- The label is recognised where it was appended. -/
theorem start?_append {label body s : List Char} (hl : Version.IsLabel label)
    (h : isLabelled label s = true) :
    (RebuildSuffix.label label).start? (body ++ s) = some body.length := by
  have hne : s ≠ [] := by
    rintro rfl
    cases h
  refine List.find?_range_eq_some.mpr ⟨?_, ?_, ?_⟩
  · rw [List.drop_left]
    exact h
  · have hlength := List.length_pos_of_ne_nil hne
    rw [List.mem_range, List.length_append]
    omega
  · intro i hi
    rw [Bool.not_eq_true', ← Bool.not_eq_true]
    intro hearlier
    rw [List.drop_append_of_le_length (Nat.le_of_lt hi)] at hearlier
    have hnil := eq_nil_of_isLabelled_append hl h hearlier
    rw [List.drop_eq_nil_iff] at hnil
    omega

end RebuildSuffix

namespace StrictPolicy

/-- What was appended is stripped. -/
theorem strip_append {p : StrictPolicy} {label body s : List Char}
    (hp : p.suffix = some (.label label)) (hl : Version.IsLabel label) (hbody : body ≠ [])
    (h : RebuildSuffix.isLabelled label s = true) :
    p.strip (String.ofList (body ++ s)) = String.ofList body := by
  obtain ⟨i, hi⟩ := Nat.exists_eq_succ_of_ne_zero (mt List.length_eq_zero_iff.mp hbody)
  rw [strip, hp, Option.bind_some, String.toList_ofList, RebuildSuffix.start?_append hl h, hi]
  dsimp only
  rw [← Nat.succ_eq_add_one, ← hi, List.take_left]

/-- A version agrees with itself without the snapshot marker. -/
theorem agree_dropSnapshot {v : Version} (hv : v.Tidy) :
    agree v.render (v.setSnapshot false).render = true := by
  have hcore : v.written.core.isEmpty = false :=
    Bool.eq_false_iff.mpr (mt List.isEmpty_iff.mp hv.core_ne_nil)
  have hbase : v.written.sameBase (v.setSnapshot false).written = true := by
    rw [sameBase, base_written, base_written]
    exact beq_iff_eq.mpr rfl
  have hnumber : (v.written.buildNumber == (v.setSnapshot false).written.buildNumber) = true := by
    rw [buildNumber_written, buildNumber_written]
    exact beq_iff_eq.mpr rfl
  simp only [agree, hv.legible.parse_render, (hv.setSnapshot false).legible.parse_render, hcore,
    hbase, hnumber, Bool.not_false, Bool.and_self, Bool.or_true]

end StrictPolicy

/-! ## What a policy appends -/

namespace VersionPolicy

/-- A policy that appends a suffix to the present version, as it is or with the next free number,
and drops the snapshot marker. -/
structure Appends (policy : VersionPolicy) (suffix : String) : Prop where
  no_override : policy.override = none
  appended : policy.suffix = .fixed suffix ∨ policy.suffix = .incremental suffix
  drops_snapshot : policy.keepSnapshot = false

variable {policy : VersionPolicy} {suffix : String}

theorem raiseBuild_cases (v : Version) (n : Nat) :
    ∃ build, raiseBuild v n = { v with build } ∧
      ∀ b ∈ build, b.separator = '-' ∨ ∃ b' ∈ v.build, b.separator = b'.separator := by
  rw [raiseBuild]
  split
  · refine ⟨_, rfl, ?_⟩
    rintro b ⟨⟩
    cases hbuild : v.build with
    | none => exact .inl rfl
    | some b' => exact .inr ⟨b', rfl, rfl⟩
  · exact ⟨v.build, rfl, fun b hb => .inr ⟨b, hb, rfl⟩⟩

/-- A rebuilt version is the one with the suffix appended, but for its number and the marker. -/
theorem Appends.rebuild_cases (h : policy.Appends suffix) (present : String)
    (published : List String) :
    ∃ build, policy.rebuild present published =
        { (parse present).appendSuffix suffix.toList with build, snapshot := none } ∧
      ∀ b ∈ build, b.separator = '-' ∨
        ∃ b' ∈ ((parse present).appendSuffix suffix.toList).build,
          b.separator = b'.separator := by
  have hsettle : ∀ v, policy.settleSnapshot v = { v with snapshot := none } := by
    intro v
    rw [settleSnapshot, h.drops_snapshot, if_neg Bool.false_ne_true]
    rfl
  simp only [rebuild, start, h.no_override, Option.getD_none, hsettle]
  rcases h.appended with hfixed | hincremental
  · rw [hfixed]
    exact ⟨_, rfl, fun b hb => .inr ⟨b, hb, rfl⟩⟩
  · rw [hincremental]
    obtain ⟨build, hraise, hseparator⟩ := raiseBuild_cases
      ((parse present).appendSuffix suffix.toList)
      (((parse present).appendSuffix suffix.toList).highestBuild (published ++ [present]) + 1)
    refine ⟨build, ?_, hseparator⟩
    dsimp only
    rw [hraise]

/-- The text of a rebuilt version: that of before without its marker, and a text that is recognised
by the label. -/
theorem Appends.chars_rebuild (h : policy.Appends suffix) (hsuffix : IsPlainSuffix suffix.toList)
    {present : String} (hpresent : IsPlain present)
    (hnew : stripLabel? (parse present).qualifier (splitSuffix suffix.toList).1 = none)
    (published : List String) :
    ∃ s, RebuildSuffix.isLabelled (splitSuffix suffix.toList).1 s = true ∧
      (policy.rebuild present published).chars = ((parse present).setSnapshot false).chars ++ s := by
  obtain ⟨label, number, hsplit, hl, hnumber⟩ := hsuffix.splitSuffix_eq
  rw [hsplit] at hnew ⊢
  obtain ⟨hcore, hbuild, c, hc, htail⟩ :=
    hpresent.tidy_parse.afterCore_appendSuffix hsplit hl hnumber hnew
  obtain ⟨build, hrebuild, hseparator⟩ := h.rebuild_cases present published
  have hbuildTail : RebuildSuffix.isBuildTail ((build.map Build.chars).getD []) = true := by
    cases build with
    | none => rfl
    | some b =>
      refine RebuildSuffix.isBuildTail_chars ?_
      rcases hseparator b rfl with hdash | ⟨b', hb', heq⟩
      · rw [hdash]
        rfl
      · rw [hbuild] at hb'
        rw [heq]
        rcases (hnumber b' hb').separator with hdot | hdash
        · rw [hdot]
          rfl
        · rw [hdash]
          rfl
  refine ⟨c :: (label ++ (build.map Build.chars).getD []),
    RebuildSuffix.isLabelled_iff.mpr ⟨c, _, hc, hbuildTail, rfl⟩, ?_⟩
  calc (policy.rebuild present published).chars =
        joinSegments ((parse present).appendSuffix suffix.toList).core ++
          (((parse present).appendSuffix suffix.toList).tail ++
            (build.map Build.chars).getD []) := by
        rw [hrebuild, chars_eq_afterCore]
        exact List.append_nil _
    _ = joinSegments (parse present).core ++ ((parse present).afterCore ++ c :: label ++
          (build.map Build.chars).getD []) := by rw [hcore, htail]
    _ = ((parse present).setSnapshot false).chars ++
          c :: (label ++ (build.map Build.chars).getD []) := by
        rw [chars_eq_afterCore (Version.setSnapshot _ _)]
        simp [setSnapshot, afterCore, tail]

end VersionPolicy

/-- The strict check for the label of a suffix lets pass what is rebuilt with that suffix. -/
theorem StrictPolicy.check_rebuild {p : StrictPolicy} {policy : VersionPolicy} {suffix : String}
    (h : policy.Appends suffix) (hsuffix : IsPlainSuffix suffix.toList)
    (hlabel : p.suffix = some (.label (splitSuffix suffix.toList).1))
    (hkeeps : p.ignoreSuffix = false) {present : String} (hpresent : IsPlain present)
    (hnew : stripLabel? (parse present).qualifier (splitSuffix suffix.toList).1 = none)
    (published : List String) :
    p.check present (policy.rebuild present published).render = true := by
  have htidy := hpresent.tidy_parse
  obtain ⟨label, number, hsplit, hl, _⟩ := hsuffix.splitSuffix_eq
  obtain ⟨s, hlabelled, hchars⟩ := h.chars_rebuild hsuffix hpresent hnew published
  -- both texts have the core of the version, which ends with a digit
  obtain ⟨init, d, hcore, hd⟩ := joinSegments_eq_concat htidy.core_ne_nil htidy.core_numerals
  have hcoreChar : ∀ w : Version, w.core = (parse present).core → d ∈ w.chars := by
    intro w hw
    rw [chars_eq_afterCore, hw, hcore]
    simp
  have hdigit : Text.isBlankChar d = false := isBlankChar_of_isAlphanum (isAlphanum_of_isDigit hd)
  have hbody : d ∈ ((parse present).setSnapshot false).chars := hcoreChar _ rfl
  have hblank : Text.isBlank present = false := by
    rw [Text.isBlank_eq_false, ← render_parse present, render, String.toList_ofList]
    exact ⟨d, hcoreChar _ rfl, hdigit⟩
  have hblank' : Text.isBlank (policy.rebuild present published).render = false := by
    rw [Text.isBlank_eq_false, render, String.toList_ofList, hchars]
    exact ⟨d, List.mem_append_left _ hbody, hdigit⟩
  have hstrip : p.strip (policy.rebuild present published).render =
      ((parse present).setSnapshot false).render := by
    rw [hsplit] at hlabel hlabelled
    rw [render, hchars, strip_append hlabel hl (List.ne_nil_of_mem hbody) hlabelled, render]
  have hagree := agree_dropSnapshot htidy
  rw [render_parse] at hagree
  rw [check, hblank, hblank', hkeeps, if_neg Bool.false_ne_true, hstrip, hagree]
  rfl

/-! ## The configuration -/

/-- A configuration that appends a plain suffix, drops the snapshot marker, and checks versions by
the label of the suffix. -/
structure Config.ChecksOwnSuffix (c : Config) (suffix : String) : Prop where
  suffix_eq : (c.versioning.suffix.bind Text.nonBlank?).or
    (c.versioning.incrementalSuffix.bind Text.nonBlank?) = some suffix
  plain : IsPlainSuffix suffix.toList
  no_override : c.versioning.override.bind Text.nonBlank? = none
  drops_snapshot : c.versioning.keepSnapshot = false
  no_pattern : c.alignment.strict.pattern.bind Text.nonBlank? = none
  no_label : c.alignment.strict.rebuildSuffix.bind Text.nonBlank? = none
  keeps_suffix : c.alignment.strict.ignoreSuffix = false

namespace Config.ChecksOwnSuffix

variable {c : Config} {suffix : String} (h : c.ChecksOwnSuffix suffix)

include h

theorem policy?_eq : ∃ policy, c.versioning.policy? = some policy ∧ policy.Appends suffix := by
  have hpolicy : c.versioning.suffixPolicy = .fixed suffix ∨
      c.versioning.suffixPolicy = .incremental suffix := by
    rw [VersioningConfig.suffixPolicy]
    rcases Option.or_eq_some_iff.mp h.suffix_eq with hfixed | ⟨hnone, hincremental⟩
    · rw [hfixed]
      exact .inl rfl
    · rw [hnone, hincremental]
      exact .inr rfl
  have hsome : c.versioning.suffixPolicy ≠ .none := by
    rcases hpolicy with heq | heq <;> rw [heq] <;> nofun
  refine ⟨{ suffix := c.versioning.suffixPolicy, keepSnapshot := false }, ?_, rfl, hpolicy, rfl⟩
  simp only [VersioningConfig.policy?, h.no_override, h.drops_snapshot]
  exact if_neg fun hnone => hsome hnone.2

/-- The label for the check is that of the suffix: both are cut at the last dash with a number
behind it. -/
theorem suffixLabel?_eq :
    c.versioning.suffixLabel? = some (String.ofList (splitSuffix suffix.toList).1) := by
  have hplain := h.plain
  generalize hs : suffix.toList = s at hplain
  cases hplain with
  | bare hl =>
    rw [hl.splitSuffix_eq, ← hs, String.ofList_toList]
    refine VersioningConfig.suffixLabel?_of_no_digits h.suffix_eq fun front digits hcut => ?_
    obtain ⟨d, rest, rfl, hd⟩ := hl.after_dash (hs.symm.trans hcut)
    simp [Text.isNumeral, isDigit_of_isAlpha hd]
  | numbered hl hn =>
    rw [hl.splitSuffix_numbered hn]
    exact VersioningConfig.suffixLabel?_of_digits h.suffix_eq hs (isNumeral_of_word? hn)

theorem ofConfig_eq : ∃ check, StrictPolicy.ofConfig c = .ok check ∧
    check.suffix = some (.label (splitSuffix suffix.toList).1) ∧ check.ignoreSuffix = false := by
  have hsuffix : StrictPolicy.suffixOf c =
      .ok (some (.label (splitSuffix suffix.toList).1)) := by
    rw [StrictPolicy.suffixOf, h.no_pattern, Config.rebuildLabel?, h.no_label, Option.none_or,
      h.suffixLabel?_eq, Option.map_some, String.toList_ofList]
  rw [StrictPolicy.ofConfig, hsuffix]
  exact ⟨_, rfl, rfl, h.keeps_suffix⟩

end Config.ChecksOwnSuffix

/-- Versions get `bar` with the next free number, and are checked without it. -/
def barConfig : Config where
  versioning := { incrementalSuffix := some "bar-07" }
  alignment := { strict := { enabled := true } }

theorem checksOwnSuffix_barConfig : barConfig.ChecksOwnSuffix "bar-07" where
  suffix_eq := by decide +kernel
  plain := isPlainSuffix_bar
  no_override := rfl
  drops_snapshot := rfl
  no_pattern := rfl
  no_label := rfl
  keeps_suffix := rfl

/-- Of a version that ends with the label already, the label is stripped too. -/
example :
    (StrictPolicy.ofConfig barConfig).toOption.map (·.check "1.0.bar" "1.0.bar-08") =
      some false := by
  decide +kernel

end BuildAlign
