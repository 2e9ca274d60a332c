import BuildAlign.Proofs.Version.Legible
import BuildAlign.Version.Suffix

/-!
The parts of a suffix, whatever its text. The number is what follows the last dash, if these are
digits that fit into 64 bits, and the label is what stands in front of the dash; without a number
the whole suffix is the label. Appended is the label, with one separator at most, and the number
becomes the build number.
-/

namespace BuildAlign.Version

variable {suffix label digits : List Char} {number : Option Build}

/-! ## Splitting -/

theorem not_mem_numeral (hdigits : Text.isNumeral digits = true) : '-' ∉ digits :=
  fun hmem => absurd ((isNumeral_iff.mp hdigits).2 _ hmem) (by decide)

theorem isNumeral_of_word? {n : Nat} (hn : Text.word? digits = some n) :
    Text.isNumeral digits = true :=
  isNumeral_iff.mpr ⟨(Text.word?_eq_some_iff.mp hn).1, (Text.word?_eq_some_iff.mp hn).2.1⟩

theorem splitSuffix_of_number {n : Nat} (hs : Text.trim suffix = label ++ '-' :: digits)
    (hn : Text.word? digits = some n) :
    splitSuffix suffix = (label, some ⟨'-', n, digits.length⟩) := by
  have hdash : '-' ∉ digits := not_mem_numeral (isNumeral_of_word? hn)
  simp only [splitSuffix, hs, Text.cutLast?_of_not_mem hdash, Option.bind_some, hn, Option.map_some]

/-- A suffix that does not end with a number is a label, or a numeral without a label. -/
theorem splitSuffix_of_no_number
    (hs : ∀ label digits, Text.trim suffix = label ++ '-' :: digits → Text.word? digits = none) :
    splitSuffix suffix =
      if Text.isNumeral (Text.trim suffix) then
        ([], (Text.word? (Text.trim suffix)).map fun n => ⟨'-', n, (Text.trim suffix).length⟩)
      else (Text.trim suffix, none) := by
  simp only [splitSuffix]
  cases hcut : Text.cutLast? '-' (Text.trim suffix) with
  | none => rw [Option.bind_none]
  | some parts =>
    have hnot := hs parts.1 parts.2 (Text.cutLast?_eq_some hcut)
    rw [Option.bind_some, hnot, Option.map_none, Option.map_none]

/-- Digits that exceed 64 bits are a part of the label. -/
theorem splitSuffix_of_overflow (hs : Text.trim suffix = label ++ '-' :: digits)
    (hdigits : Text.isNumeral digits = true) (hlarge : Text.maxWord < Text.numeral digits) :
    splitSuffix suffix = (Text.trim suffix, none) := by
  have hdash : '-' ∉ digits := not_mem_numeral hdigits
  have hnot : ∀ label' digits', Text.trim suffix = label' ++ '-' :: digits' →
      Text.word? digits' = none := by
    intro label' digits' hs'
    rw [Option.eq_none_iff_forall_ne_some]
    intro n hn
    -- both are the cut at the last dash
    have hcut := Text.cutLast?_of_not_mem hdash label
    rw [← hs, hs', Text.cutLast?_of_not_mem (not_mem_numeral (isNumeral_of_word? hn))] at hcut
    obtain ⟨-, rfl⟩ := Prod.mk.inj (Option.some.inj hcut)
    exact absurd (Text.word?_eq_some_iff.mp hn).2.2.1 (Nat.not_le.mpr hlarge)
  have hword : Text.isNumeral (Text.trim suffix) = false := by
    rw [hs, ← Bool.not_eq_true]
    exact fun h => not_mem_numeral h (by simp)
  rw [splitSuffix_of_no_number hnot, hword, if_neg Bool.false_ne_true]

/-- The three kinds of suffixes: a label and a number behind a dash, a numeral, or a label. -/
theorem splitSuffix_cases (suffix : List Char) :
    (∃ label digits n, Text.trim suffix = label ++ '-' :: digits ∧ Text.word? digits = some n ∧
      splitSuffix suffix = (label, some ⟨'-', n, digits.length⟩)) ∨
    splitSuffix suffix =
      ([], (Text.word? (Text.trim suffix)).map fun n => ⟨'-', n, (Text.trim suffix).length⟩) ∨
    splitSuffix suffix = (Text.trim suffix, none) := by
  by_cases hnumber : ∃ label digits n,
      Text.trim suffix = label ++ '-' :: digits ∧ Text.word? digits = some n
  · obtain ⟨label, digits, n, hs, hn⟩ := hnumber
    exact .inl ⟨label, digits, n, hs, hn, splitSuffix_of_number hs hn⟩
  · right
    have hsplit := splitSuffix_of_no_number fun label digits hs =>
      Option.eq_none_iff_forall_ne_some.mpr fun n hn => hnumber ⟨label, digits, n, hs, hn⟩
    rw [hsplit]
    split
    · exact .inl rfl
    · exact .inr rfl

/-! ## Appending -/

@[simp] theorem build_appendLabel (v : Version) (label : List Char) :
    (appendLabel v label).build = v.build := by
  rw [appendLabel]
  split <;> rfl

/-- A label is put behind the qualifier with one separator at most. -/
theorem qualifier_appendLabel (v : Version) (label : List Char) :
    ∃ separator : Option Char,
      (appendLabel v label).qualifier = v.qualifier ++ separator.toList ++ label := by
  rw [appendLabel]
  split
  · rename_i hempty
    exact ⟨none, by rw [hempty]; rfl⟩
  · exact ⟨v.insertionSeparator, rfl⟩

/-- A suffix without a label sets the build number, if it has one. -/
theorem appendSuffix_of_no_label (v : Version) (hsuffix : splitSuffix suffix = ([], number)) :
    v.appendSuffix suffix = { v with build := number.or v.build } := by
  simp only [appendSuffix, hsuffix]

/-- The two ways of appending a suffix with a label: in place of the same label, or as
a new label after the build number. -/
theorem appendSuffix_cases (v : Version) (hsuffix : splitSuffix suffix = (label, number))
    (hlabel : label ≠ []) :
    (∃ front, stripLabel? v.qualifier label = some front ∧
      v.appendSuffix suffix = appendLabel
        { v with
          separator := if front = [] then none else v.separator
          qualifier := front
          build := number.or v.build } label) ∨
    (stripLabel? v.qualifier label = none ∧
      v.appendSuffix suffix = appendLabel { v.foldBuild with build := number } label) := by
  obtain ⟨c, s, rfl⟩ := List.exists_cons_of_ne_nil hlabel
  simp only [appendSuffix, hsuffix]
  cases hstrip : stripLabel? v.qualifier (c :: s) with
  | none => exact .inr ⟨rfl, rfl⟩
  | some front => exact .inl ⟨front, rfl, rfl⟩

/-- A suffixed version ends with the label, in whichever way it came there. -/
theorem label_suffix_qualifier (v : Version) (hsuffix : splitSuffix suffix = (label, number)) :
    label <:+ (v.appendSuffix suffix).qualifier := by
  by_cases hlabel : label = []
  · rw [hlabel]
    exact List.nil_suffix
  · have hends : ∀ w, v.appendSuffix suffix = appendLabel w label →
        label <:+ (v.appendSuffix suffix).qualifier := by
      intro w hw
      obtain ⟨separator, hqualifier⟩ := qualifier_appendLabel w label
      rw [hw, hqualifier]
      exact List.suffix_append ..
    rcases appendSuffix_cases v hsuffix hlabel with ⟨front, -, heq⟩ | ⟨-, heq⟩
    · exact hends _ heq
    · exact hends _ heq

/-- A new label goes behind the build number of before, and starts with the number of the suffix. -/
theorem qualifier_appendSuffix_of_new {v : Version} (hsuffix : splitSuffix suffix = (label, number))
    (hlabel : label ≠ []) (hnew : stripLabel? v.qualifier label = none) :
    (∃ separator : Option Char,
      (v.appendSuffix suffix).qualifier = v.foldBuild.qualifier ++ separator.toList ++ label) ∧
    (v.appendSuffix suffix).build = number := by
  rcases appendSuffix_cases v hsuffix hlabel with ⟨front, hstrip, -⟩ | ⟨-, heq⟩
  · cases hnew.symm.trans hstrip
  · rw [heq, build_appendLabel]
    exact ⟨qualifier_appendLabel _ label, rfl⟩

end BuildAlign.Version
