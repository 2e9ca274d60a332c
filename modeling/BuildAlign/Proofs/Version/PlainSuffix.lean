import BuildAlign.Proofs.Version.Labelled

/-!
Plain suffixes: a label of words, with a number behind a dash or without one. Appending a plain
suffix keeps a version tidy, and what it appends is found again: the label is stripped where it was
put, the same separator is put in front of it, and the build number is the one of before.
-/

namespace BuildAlign.Version

/-- A label of words, or such a label, a dash and a number of at most 64 bits. -/
inductive IsPlainSuffix : List Char → Prop
  | bare {label : List Char} : IsLabel label → IsPlainSuffix label
  | numbered {label digits : List Char} {n : Nat} :
      IsLabel label → Text.word? digits = some n → IsPlainSuffix (label ++ '-' :: digits)

/-- The number is what follows the last dash. -/
theorem IsLabel.splitSuffix_numbered {label digits : List Char} {n : Nat} (hl : IsLabel label)
    (hn : Text.word? digits = some n) :
    splitSuffix (label ++ '-' :: digits) = (label, some ⟨'-', n, digits.length⟩) := by
  have hnumeral : Segmented digits := segmented_of_isNumeral (isNumeral_of_word? hn)
  have hsegmented : Segmented (label ++ '-' :: digits) :=
    hl.segmented.append (by decide) hnumeral
  exact splitSuffix_of_number (Text.trim_eq_self fun _ => hsegmented.isBlankChar_of_mem) hn

namespace IsPlainSuffix

variable {suffix : List Char}

/-- What a plain suffix consists of. -/
theorem splitSuffix_eq (hs : IsPlainSuffix suffix) :
    ∃ label number, splitSuffix suffix = (label, number) ∧ IsLabel label ∧
      ∀ b ∈ number, b.Legible := by
  cases hs with
  | bare hl => exact ⟨_, none, hl.splitSuffix_eq, hl, nofun⟩
  | numbered hl hn =>
    refine ⟨_, _, hl.splitSuffix_numbered hn, hl, ?_⟩
    obtain ⟨_, _, hfits, rfl⟩ := Text.word?_eq_some_iff.mp hn
    rintro _ ⟨⟩
    exact ⟨.inr rfl, hfits⟩

theorem tidy_appendSuffix (hs : IsPlainSuffix suffix) {v : Version} (hv : v.Tidy) :
    (v.appendSuffix suffix).Tidy := by
  obtain ⟨label, number, hsuffix, hl, hnumber⟩ := hs.splitSuffix_eq
  exact hv.appendSuffix hsuffix hl hnumber

end IsPlainSuffix

/-! ## Finding an appended label again -/

namespace Extensible

variable {v : Version} {label : List Char}

/-- Stripping an appended label gives the qualifier of before. -/
theorem stripLabel?_appendLabel (hv : v.Extensible) (label : List Char) :
    stripLabel? (appendLabel v label).qualifier label = some v.qualifier := by
  rcases hv.appendLabel_cases label with ⟨hq, heq⟩ | ⟨_, c, hc, heq⟩
  · rw [heq, hq]
    exact if_pos rfl
  · rw [heq]
    exact stripLabel?_append hc v.qualifier label

/-- Where the label was, it goes again, with the separator that it had. -/
theorem appendLabel_stripped (v : Version) (label : List Char) (number : Option Build)
    (marker : Option (List Char)) :
    appendLabel
      { appendLabel v label with
        separator := if v.qualifier = [] then none else (appendLabel v label).separator
        qualifier := v.qualifier
        build := number
        snapshot := marker } label =
      { appendLabel v label with build := number, snapshot := marker } := by
  by_cases hq : v.qualifier = []
  · simp [appendLabel, insertionSeparator, hq]
  · simp [appendLabel, insertionSeparator, hq]

/-- Appending a suffix behind its own label changes only the build number, to that of the suffix if
it has one. -/
theorem appendSuffix_appendLabel (hv : v.Extensible) {suffix label : List Char}
    {number : Option Build} (hsuffix : splitSuffix suffix = (label, number)) (hl : IsLabel label)
    (build : Option Build) (marker : Option (List Char)) :
    ({ appendLabel v label with build, snapshot := marker } : Version).appendSuffix suffix =
      { appendLabel v label with build := number.or build, snapshot := marker } := by
  have hstripped := hv.stripLabel?_appendLabel label
  rcases appendSuffix_cases { appendLabel v label with build, snapshot := marker } hsuffix
    (Words.ne_nil hl) with ⟨front, hstrip, heq⟩ | ⟨hstrip, _⟩
  · obtain rfl : front = v.qualifier := Option.some.inj (hstrip.symm.trans hstripped)
    exact heq.trans (appendLabel_stripped v label _ marker)
  · exact absurd (hstrip.symm.trans hstripped) nofun

end Extensible

/-- A version that ends with the label of a suffix, and has the number of the suffix if that has
one. -/
def Suffixed (suffix : List Char) (v : Version) : Prop :=
  ∃ w label number, w.Extensible ∧ splitSuffix suffix = (label, number) ∧ IsLabel label ∧
    (∀ b ∈ number, w.build = some b) ∧ v = appendLabel w label

/-- What a plain suffix leaves of any tidy version. The number of the suffix stays as it is written,
the zeros in front included. -/
theorem IsPlainSuffix.suffixed {suffix : List Char} (hs : IsPlainSuffix suffix) {v : Version}
    (hv : v.Tidy) : Suffixed suffix (v.appendSuffix suffix) := by
  obtain ⟨label, number, hsuffix, hl, hnumber⟩ := hs.splitSuffix_eq
  rcases appendSuffix_cases v hsuffix (Words.ne_nil hl) with ⟨front, hstrip, heq⟩ | ⟨_, heq⟩
  · refine ⟨_, label, number, hv.extensible_strip hstrip (number.or v.build) ?_, hsuffix, hl, ?_,
      heq⟩
    · intro b hb
      rcases Option.or_eq_some_iff.mp hb with hb | ⟨_, hb⟩
      · exact hnumber b hb
      · exact hv.build_legible b hb
    · rintro b ⟨⟩
      rfl
  · exact ⟨_, label, number, hv.extensible_foldBuild number hnumber, hsuffix, hl,
      fun _ hb => hb, heq⟩

@[simp] theorem snapshot_appendLabel (v : Version) (label : List Char) :
    (appendLabel v label).snapshot = v.snapshot := by
  rw [appendLabel]
  split <;> rfl

@[simp] theorem snapshot_foldBuild (v : Version) : v.foldBuild.snapshot = v.snapshot := by
  rw [foldBuild]
  split
  · rfl
  · split <;> rfl

@[simp] theorem snapshot_appendSuffix (v : Version) (suffix : List Char) :
    (v.appendSuffix suffix).snapshot = v.snapshot := by
  rw [appendSuffix]
  split
  · rfl
  · split
    · rw [replaceLabel, snapshot_appendLabel]
    · rw [snapshot_appendLabel, snapshot_foldBuild]

/-- The snapshot marker has no part in where a label goes. -/
theorem appendLabel_setSnapshot (v : Version) (label : List Char) (on : Bool) :
    appendLabel (v.setSnapshot on) label = (appendLabel v label).setSnapshot on := by
  by_cases hq : v.qualifier = []
  · simp [appendLabel, insertionSeparator, setSnapshot, hq]
  · simp [appendLabel, insertionSeparator, setSnapshot, hq]

/-- What is read back is written alike. -/
theorem Legible.chars_written {v : Version} (hv : v.Legible) : v.written.chars = v.chars := by
  rw [← hv.ofChars_chars, chars_ofChars]

namespace Suffixed

variable {suffix : List Char} {v : Version}

theorem dropSnapshot (hv : Suffixed suffix v) : Suffixed suffix (v.setSnapshot false) := by
  obtain ⟨w, label, number, hw, hsuffix, hl, hnumber, rfl⟩ := hv
  exact ⟨w.setSnapshot false, label, number, { hw with snapshot_marker := nofun }, hsuffix, hl,
    hnumber, (appendLabel_setSnapshot w label false).symm⟩

/-- Appending the same suffix to what is read back changes nothing in the text. -/
theorem chars_appendSuffix (hv : Suffixed suffix v) (hlegible : v.Legible) :
    (v.written.appendSuffix suffix).chars = v.chars := by
  obtain ⟨w, label, number, hw, hsuffix, hl, hnumber, rfl⟩ := hv
  have happended : (appendLabel w label).written.appendSuffix suffix =
      { appendLabel w label with build := number.or (appendLabel w label).written.build } :=
    hw.appendSuffix_appendLabel hsuffix hl (appendLabel w label).written.build _
  rw [happended]
  cases hn : number with
  | none => exact hlegible.chars_written
  | some b =>
    have hbuild : (appendLabel w label).build = some b := by
      rw [build_appendLabel]
      exact hnumber b hn
    rw [Option.some_or, ← hbuild]

end Suffixed

end BuildAlign.Version
