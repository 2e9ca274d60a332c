import BuildAlign.Config.Basic
import BuildAlign.Proofs.Versioning.Advance

/-!
The label of a configuration and the label that versions get. The configuration cuts any digits off
behind the last dash of its suffix, and appending cuts off a number of 64 bits only. So the two
labels are the same exactly if the digits fit; where they do not, versions get the whole suffix as
their label and no build number.
-/

namespace BuildAlign

namespace Version

variable {suffix label : List Char} {v : Version}

/-- Appending the suffix puts this label at the end of the qualifier, behind what was there before
and one separator at most, and what follows the label and a dash in the suffix becomes the build
number. -/
structure GainsLabel (suffix label : List Char) (v : Version) : Prop where
  ends : label <:+ (v.appendSuffix suffix).qualifier
  appended : label ≠ [] → ∃ separator : Option Char,
    (v.appendSuffix suffix).qualifier = v.foldBuild.qualifier ++ separator.toList ++ label
  unlabelled : label = [] → (v.appendSuffix suffix).qualifier = v.qualifier
  number : ∀ digits, Text.trim suffix = label ++ '-' :: digits →
    (v.appendSuffix suffix).buildNumber = some (Text.numeral digits)

theorem gainsLabel_of_number {digits : List Char} {n : Nat}
    (hs : Text.trim suffix = label ++ '-' :: digits) (hn : Text.word? digits = some n)
    (hnew : ¬ EndsInLabel label v.qualifier) : GainsLabel suffix label v := by
  have hsplit := splitSuffix_of_number hs hn
  have hstrip : stripLabel? v.qualifier label = none :=
    Option.not_isSome_iff_eq_none.mp (mt endsInLabel_iff.mpr hnew)
  refine ⟨label_suffix_qualifier v hsplit, fun hlabel =>
    (qualifier_appendSuffix_of_new hsplit hlabel hstrip).1, ?_, fun digits' hs' => ?_⟩
  · rintro rfl
    rw [appendSuffix_of_no_label v hsplit]
  · obtain ⟨-, hdigits⟩ := List.cons.inj (List.append_cancel_left (hs.symm.trans hs'))
    obtain ⟨-, -, -, hvalue⟩ := Text.word?_eq_some_iff.mp hn
    have hcarried : carriedNumber? suffix = some n := by
      rw [carriedNumber?, hsplit]
      rfl
    rw [buildNumber_appendSuffix_of_carried hcarried, ← hdigits, hvalue]

/-- A suffix without a number is gained as a whole, and there is no build number. -/
theorem gainsLabel_of_whole (hsplit : splitSuffix suffix = (Text.trim suffix, none))
    (hne : Text.trim suffix ≠ []) (hnew : ¬ EndsInLabel (Text.trim suffix) v.qualifier) :
    GainsLabel suffix (Text.trim suffix) v ∧ (v.appendSuffix suffix).build = none := by
  have hstrip : stripLabel? v.qualifier (Text.trim suffix) = none :=
    Option.not_isSome_iff_eq_none.mp (mt endsInLabel_iff.mpr hnew)
  obtain ⟨hqualifier, hbuild⟩ := qualifier_appendSuffix_of_new hsplit hne hstrip
  refine ⟨⟨label_suffix_qualifier v hsplit, fun _ => hqualifier, fun hnil => absurd hnil hne,
    fun digits hs => ?_⟩, hbuild⟩
  have hlength := congrArg List.length hs
  rw [List.length_append, List.length_cons] at hlength
  omega

/-- The digits behind the last dash of a suffix are a number of at most 64 bits. -/
def NumberFits (suffix : List Char) : Prop :=
  ∀ label digits, Text.trim suffix = label ++ '-' :: digits → Text.isNumeral digits = true →
    Text.numeral digits ≤ Text.maxWord

theorem numberFits_iff :
    NumberFits suffix ↔ ∀ parts ∈ Text.cutLast? '-' (Text.trim suffix),
      Text.isNumeral parts.2 = true → Text.numeral parts.2 ≤ Text.maxWord := by
  constructor
  · exact fun h parts hcut => h parts.1 parts.2 (Text.cutLast?_eq_some hcut)
  · intro h label digits hs hdigits
    refine h (label, digits) ?_ hdigits
    rw [hs]
    exact Text.cutLast?_of_not_mem (not_mem_numeral hdigits) label

instance (suffix : List Char) : Decidable (NumberFits suffix) :=
  decidable_of_iff _ numberFits_iff.symm

/-- No label stands at the end of every version. -/
theorem exists_not_endsInLabel (label : List Char) :
    ∃ v : Version, v.build = none ∧ ¬ EndsInLabel label v.qualifier := by
  refine ⟨opaqueText ('x' :: label), rfl, ?_⟩
  rintro (hsame | ⟨front, c, hc, hbehind⟩)
  · exact List.cons_ne_self 'x' label hsame
  · have hfront : ['x'] ++ label = (front ++ [c]) ++ label := by
      rw [List.append_assoc]
      exact hbehind
    have hlast := congrArg List.getLast? (List.append_cancel_right hfront)
    rw [List.getLast?_concat] at hlast
    obtain rfl : 'x' = c := Option.some.inj hlast
    exact absurd hc (by decide)

end Version

namespace VersioningConfig

open Version

variable {c : VersioningConfig} {s : String} {label digits : List Char}

/-- The text is the suffix that versions get: the fixed one, or the incremental one where no fixed
one is set. -/
def UsesSuffix (c : VersioningConfig) (s : String) : Prop :=
  c.suffix = some s ∨ c.suffix.bind Text.nonBlank? = none ∧ c.incrementalSuffix = some s

/-- The label of the configuration is the one that versions without it get from the suffix. -/
def LabelAgrees (c : VersioningConfig) (s : String) : Prop :=
  ∃ label, c.suffixLabel? = some label ∧
    ∀ v : Version, ¬ EndsInLabel label.toList v.qualifier → GainsLabel s.toList label.toList v

/-- The suffix that counts, of the two that can be set. -/
theorem UsesSuffix.text_eq (h : c.UsesSuffix s) (hblank : Text.isBlank s = false) :
    (c.suffix.bind Text.nonBlank?).or (c.incrementalSuffix.bind Text.nonBlank?) =
      some (Text.trimmed s) := by
  have hnonBlank : Text.nonBlank? s = some (Text.trimmed s) := by
    rw [Text.nonBlank?, hblank, if_neg Bool.false_ne_true]
  rcases h with hfixed | ⟨hnone, hincremental⟩
  · rw [hfixed, Option.bind_some, hnonBlank, Option.some_or]
  · rw [hnone, hincremental, Option.bind_some, hnonBlank, Option.none_or]

theorem suffixLabel?_of_digits
    (htext : (c.suffix.bind Text.nonBlank?).or (c.incrementalSuffix.bind Text.nonBlank?) = some s)
    (hs : s.toList = label ++ '-' :: digits) (hdigits : Text.isNumeral digits = true) :
    c.suffixLabel? = some (String.ofList label) := by
  rw [suffixLabel?, htext, Option.map_some, hs,
    Text.cutLast?_of_not_mem (not_mem_numeral hdigits)]
  exact congrArg some (if_pos hdigits)

/-- A suffix without digits behind a dash is its own label. -/
theorem suffixLabel?_of_no_digits
    (htext : (c.suffix.bind Text.nonBlank?).or (c.incrementalSuffix.bind Text.nonBlank?) = some s)
    (hs : ∀ label digits, s.toList = label ++ '-' :: digits → Text.isNumeral digits = false) :
    c.suffixLabel? = some s := by
  rw [suffixLabel?, htext, Option.map_some]
  split
  · rename_i label digits hcut
    rw [hs label digits (Text.cutLast?_eq_some hcut), if_neg Bool.false_ne_true]
  · rfl

theorem UsesSuffix.label_of_digits (h : c.UsesSuffix s) (hblank : Text.isBlank s = false)
    (hs : Text.trim s.toList = label ++ '-' :: digits) (hdigits : Text.isNumeral digits = true) :
    c.suffixLabel? = some (String.ofList label) :=
  suffixLabel?_of_digits (h.text_eq hblank) ((String.toList_ofList ..).trans hs) hdigits

/-- Digits that fit are cut off on both sides. -/
theorem UsesSuffix.labelAgrees (h : c.UsesSuffix s) (hblank : Text.isBlank s = false)
    (hword : Text.isNumeral (Text.trim s.toList) = false) (hfits : NumberFits s.toList) :
    c.LabelAgrees s := by
  by_cases hsome : ∃ label digits, Text.trim s.toList = label ++ '-' :: digits ∧
      Text.isNumeral digits = true
  · obtain ⟨label, digits, hs, hdigits⟩ := hsome
    refine ⟨_, h.label_of_digits hblank hs hdigits, fun v hnew => ?_⟩
    rw [String.toList_ofList] at hnew ⊢
    have hn : Text.word? digits = some (Text.numeral digits) :=
      Text.word?_eq_some_iff.mpr ⟨(isNumeral_iff.mp hdigits).1, (isNumeral_iff.mp hdigits).2,
        hfits label digits hs hdigits, rfl⟩
    exact gainsLabel_of_number hs hn hnew
  · have hnot : ∀ label digits, Text.trim s.toList = label ++ '-' :: digits →
        Text.isNumeral digits = false := by
      intro label digits hs
      rw [← Bool.not_eq_true]
      exact fun hdigits => hsome ⟨label, digits, hs, hdigits⟩
    have hsplit : splitSuffix s.toList = (Text.trim s.toList, none) := by
      rw [splitSuffix_of_no_number, hword, if_neg Bool.false_ne_true]
      intro label digits hs
      rw [Option.eq_none_iff_forall_ne_some]
      intro n hn
      exact absurd (isNumeral_of_word? hn) (Bool.eq_false_iff.mp (hnot label digits hs))
    have htrimmed : (Text.trimmed s).toList = Text.trim s.toList := String.toList_ofList ..
    rw [← htrimmed] at hnot
    refine ⟨_, suffixLabel?_of_no_digits (h.text_eq hblank) hnot, fun v hnew => ?_⟩
    rw [htrimmed] at hnew ⊢
    exact (gainsLabel_of_whole hsplit (Text.trim_ne_nil hblank) hnew).1

/-- Digits that do not fit are cut off by the configuration and become no build number. -/
theorem UsesSuffix.numberFits (h : c.UsesSuffix s) (hblank : Text.isBlank s = false)
    (hagrees : c.LabelAgrees s) : NumberFits s.toList := by
  obtain ⟨label', hlabel', hgains⟩ := hagrees
  intro label digits hs hdigits
  by_contra hlarge
  rw [Nat.not_le] at hlarge
  obtain rfl : String.ofList label = label' :=
    Option.some.inj ((h.label_of_digits hblank hs hdigits).symm.trans hlabel')
  rw [String.toList_ofList] at hgains
  obtain ⟨v, hbuild, hnew⟩ := exists_not_endsInLabel label
  have hnone : (v.appendSuffix s.toList).build = none := by
    rcases v.build_appendSuffix_cases s.toList with heq | heq
    · rw [heq, splitSuffix_of_overflow hs hdigits hlarge, hbuild]
      rfl
    · rw [heq, splitSuffix_of_overflow hs hdigits hlarge]
  have hnumber := (hgains v hnew).number digits hs
  rw [buildNumber, hnone] at hnumber
  cases hnumber

/-- The label of a configuration is the one that versions get, with the remaining digits as their
build number, exactly if the digits fit into 64 bits. If they do not, the label of the configuration
is still the text in front of them, but versions get the whole suffix and no build number. -/
theorem suffixLabel_appended_iff (h : c.UsesSuffix s) (hblank : Text.isBlank s = false)
    (hword : Text.isNumeral (Text.trim s.toList) = false) :
    (c.LabelAgrees s ↔ NumberFits s.toList) ∧
    ∀ label digits, Text.trim s.toList = label ++ '-' :: digits → Text.isNumeral digits = true →
      Text.maxWord < Text.numeral digits →
        c.suffixLabel? = some (String.ofList label) ∧
        ∀ v : Version, ¬ EndsInLabel (Text.trim s.toList) v.qualifier →
          GainsLabel s.toList (Text.trim s.toList) v ∧ (v.appendSuffix s.toList).build = none := by
  refine ⟨⟨h.numberFits hblank, h.labelAgrees hblank hword⟩, ?_⟩
  intro label digits hs hdigits hlarge
  refine ⟨h.label_of_digits hblank hs hdigits, fun v hnew => ?_⟩
  exact gainsLabel_of_whole (splitSuffix_of_overflow hs hdigits hlarge) (Text.trim_ne_nil hblank)
    hnew

/-! ## Digits that fit, and digits that do not -/

/-- The fixed suffix is blank, and the incremental one has blank ends and a number with leading
zeros. -/
def paddedConfig : VersioningConfig where
  suffix := some "  "
  incrementalSuffix := some " foo-bar-007 "

theorem label_agrees_paddedNumber :
    paddedConfig.UsesSuffix " foo-bar-007 " ∧ Text.isBlank " foo-bar-007 " = false ∧
      Text.isNumeral (Text.trim " foo-bar-007 ".toList) = false ∧
      paddedConfig.LabelAgrees " foo-bar-007 " :=
  have huses : paddedConfig.UsesSuffix " foo-bar-007 " := .inr ⟨by decide +kernel, rfl⟩
  ⟨huses, by decide +kernel, by decide +kernel,
    (suffixLabel_appended_iff huses (by decide +kernel) (by decide +kernel)).1.mpr
      (by decide +kernel)⟩

/-- A label with a time in microseconds. -/
def timestampConfig : VersioningConfig where
  incrementalSuffix := some "redhat-20240131120000123456"

/-- The configuration has the label without the time, and versions get it with the time. -/
theorem timestamp_not_cut :
    timestampConfig.suffixLabel? = some "redhat" ∧
      ((parse "1.0").appendSuffix "redhat-20240131120000123456".toList).render =
        "1.0.redhat-20240131120000123456" ∧
      ((parse "1.0").appendSuffix "redhat-20240131120000123456".toList).buildNumber = none ∧
      ¬ timestampConfig.LabelAgrees "redhat-20240131120000123456" := by
  have hlabel : timestampConfig.suffixLabel? = some "redhat" := by decide +kernel
  have hnone :
      ((parse "1.0").appendSuffix "redhat-20240131120000123456".toList).buildNumber = none := by
    decide +kernel
  refine ⟨hlabel, by decide +kernel, hnone, ?_⟩
  rintro ⟨label, heq, hgains⟩
  obtain rfl : "redhat" = label := Option.some.inj (hlabel.symm.trans heq)
  have hnumber := (hgains (parse "1.0") (by decide +kernel)).number
    "20240131120000123456".toList (by decide +kernel)
  cases hnone.symm.trans hnumber

end VersioningConfig

end BuildAlign
