import BuildAlign.Text.Blank
import BuildAlign.Unicode.DecimalDigit
import BuildAlign.Version.Base
import BuildAlign.Version.Osgi
import BuildAlign.Version.Parse

/-!
The classes of characters in a version: letters, digits, separators, and the spellings of the
snapshot marker, with what the character maps of bases and OSGi forms do to each of them.
-/

namespace BuildAlign.Version

theorem isAlpha_iff_toNat {c : Char} :
    c.isAlpha = true ↔ (65 ≤ c.toNat ∧ c.toNat ≤ 90) ∨ (97 ≤ c.toNat ∧ c.toNat ≤ 122) := by
  have hdef : c.isAlpha =
      (decide (c.val ≥ 'A'.val ∧ c.val ≤ 'Z'.val) || (c.val ≥ 'a'.val && c.val ≤ 'z'.val)) := rfl
  rw [hdef]
  simp [UInt32.le_iff_toNat_le]

theorem isAlphanum_iff {c : Char} :
    c.isAlphanum = true ↔ c.isAlpha = true ∨ c.isDigit = true := by
  simp [Char.isAlphanum]

theorem isSeparator_iff {c : Char} : isSeparator c = true ↔ c = '.' ∨ c = '-' ∨ c = '_' := by
  simp [isSeparator, or_assoc]

theorem isAlphanum_of_isDigit {c : Char} (hc : c.isDigit = true) : c.isAlphanum = true :=
  isAlphanum_iff.mpr (.inr hc)

theorem isDigit_of_isAlpha {c : Char} (hc : c.isAlpha = true) : c.isDigit = false := by
  rw [isAlpha_iff_toNat] at hc
  rw [Bool.eq_false_iff, ne_eq, Char.isDigit_iff_toNat]
  simp only [Char.reduceToNat]
  omega

theorem isAlpha_of_isDigit {c : Char} (hc : c.isDigit = true) : c.isAlpha = false := by
  rw [← Bool.not_eq_true]
  intro halpha
  exact absurd ((isDigit_of_isAlpha halpha).symm.trans hc) nofun

theorem isSeparator_of_isAlphanum {c : Char} (hc : c.isAlphanum = true) :
    isSeparator c = false := by
  rw [Bool.eq_false_iff]
  intro hseparator
  rcases isSeparator_iff.mp hseparator with rfl | rfl | rfl <;> simp at hc

theorem isAlpha_of_isSeparator {c : Char} (hc : isSeparator c = true) : c.isAlpha = false := by
  rcases isSeparator_iff.mp hc with rfl | rfl | rfl <;> rfl

theorem isDigit_of_isSeparator {c : Char} (hc : isSeparator c = true) : c.isDigit = false := by
  rcases isSeparator_iff.mp hc with rfl | rfl | rfl <;> rfl

theorem isVersionChar_of_isAlphanum {c : Char} (hc : c.isAlphanum = true) :
    isVersionChar c = true := by
  simp [isVersionChar, hc]

theorem isVersionChar_of_isSeparator {c : Char} (hc : isSeparator c = true) :
    isVersionChar c = true := by
  simp [isVersionChar, hc]

theorem isBlankChar_of_isAlphanum {c : Char} (hc : c.isAlphanum = true) :
    Text.isBlankChar c = false := by
  rw [isAlphanum_iff, isAlpha_iff_toNat, Char.isDigit_iff_toNat] at hc
  simp only [Char.reduceToNat] at hc
  simp [Text.isBlankChar]
  omega

theorem unicodeDigit_of_isDigit {c : Char} (hc : c.isDigit = true) :
    Unicode.isDigit c = true := by
  rw [Char.isDigit_iff_toNat] at hc
  simp only [Char.reduceToNat] at hc
  refine List.any_eq_true.mpr ⟨0x30, by decide, ?_⟩
  simp only [Bool.and_eq_true, decide_eq_true_eq]
  omega

/-- No script has decimal digits among the letters of ASCII. -/
theorem unicodeDigit_of_isAlpha {c : Char} (hc : c.isAlpha = true) :
    Unicode.isDigit c = false := by
  rw [isAlpha_iff_toNat] at hc
  have hzeros : ∀ start ∈ Unicode.digitZeros, start = 0x30 ∨ 0x7A < start := by decide
  refine List.any_eq_false.mpr fun start hstart => ?_
  have hzero := hzeros start hstart
  simp only [Bool.and_eq_true, decide_eq_true_eq]
  omega

/-! ## Spellings of the marker -/

/-- The snapshot marker in some letter case. -/
def IsMarker (m : List Char) : Prop :=
  m.map Char.toUpper = snapshotMarker

instance (m : List Char) : Decidable (IsMarker m) :=
  inferInstanceAs (Decidable (_ = _))

theorem toUpper_cases (c : Char) :
    c.toUpper = c ∨ (97 ≤ c.toNat ∧ c.toNat ≤ 122) ∧ c.toUpper.toNat = c.toNat - 32 := by
  by_cases hlower : 'a'.val ≤ c.val ∧ c.val ≤ 'z'.val
  · right
    have hcode : c.toUpper.toNat = (c.val + ('A'.val - 'a'.val)).toNat := by
      delta Char.toUpper
      rw [dif_pos hlower]
      rfl
    simp [UInt32.le_iff_toNat_le, UInt32.toNat_add] at hlower hcode
    omega
  · left
    delta Char.toUpper
    rw [dif_neg hlower]

theorem isAlpha_of_toUpper {c : Char} (hc : c.toUpper.isAlpha = true) : c.isAlpha = true := by
  rcases toUpper_cases c with hsame | ⟨hlower, _⟩
  · rwa [hsame] at hc
  · exact isAlpha_iff_toNat.mpr (.inr hlower)

theorem eq_dash_of_toUpper {c : Char} (hc : c.toUpper = '-') : c = '-' := by
  rcases toUpper_cases c with hsame | ⟨hlower, hcode⟩
  · rwa [hsame] at hc
  · have hdash : ('-').toNat = c.toNat - 32 := hc ▸ hcode
    simp only [Char.reduceToNat] at hdash
    omega

/-- Every spelling of the marker is a dash and a word of letters. -/
theorem IsMarker.eq_cons {m : List Char} (hm : IsMarker m) :
    ∃ word, m = '-' :: word ∧ word ≠ [] ∧ (∀ c ∈ word, c.isAlpha = true) ∧
      word.map Char.toUpper = snapshotMarker.tail := by
  unfold IsMarker snapshotMarker at hm
  cases m with
  | nil => simp at hm
  | cons dash word =>
    simp only [List.map_cons, List.cons.injEq] at hm
    obtain ⟨hdash, hword⟩ := hm
    refine ⟨word, by rw [eq_dash_of_toUpper hdash], ?_, ?_, hword⟩
    · rintro rfl
      simp at hword
    · intro c hc
      apply isAlpha_of_toUpper
      have hupper : c.toUpper ∈ word.map Char.toUpper := List.mem_map_of_mem hc
      rw [hword] at hupper
      exact List.all_eq_true.mp (by decide) c.toUpper hupper

theorem IsMarker.length_eq {m : List Char} (hm : IsMarker m) : m.length = 9 := by
  simpa [snapshotMarker] using congrArg List.length hm

/-- The marker word in any letter case, after a dash, ends the text. -/
def EndsInMarker (s : List Char) : Prop :=
  ∃ front m, s = front ++ m ∧ IsMarker m

/-! ## Characters of bases and of OSGi forms -/

theorem osgiChar_of_isAlphanum {c : Char} (hc : c.isAlphanum = true) : osgiChar c = c := by
  simp [osgiChar, hc]

theorem osgiChar_cases (c : Char) :
    (osgiChar c).isAlphanum = true ∨ osgiChar c = '_' ∨ osgiChar c = '-' := by
  unfold osgiChar
  split
  · rename_i hc
    simpa [or_assoc] using hc
  · exact .inr (.inl rfl)

theorem osgiChar_ne_dot (c : Char) : osgiChar c ≠ '.' := by
  intro hdot
  have hcases := osgiChar_cases c
  rw [hdot] at hcases
  revert hcases
  decide

theorem isSeparator_osgiChar {c : Char} (hc : isSeparator c = true) :
    isSeparator (osgiChar c) = true := by
  rcases isSeparator_iff.mp hc with rfl | rfl | rfl <;> decide

/-- Bases do not tell a label from its OSGi form, as long as the label has no other characters than
letters, digits and separators. -/
theorem labelChar_osgiChar {c : Char} (hc : c.isAlphanum = true ∨ isSeparator c = true) :
    labelChar (osgiChar c) = labelChar c := by
  rcases hc with hc | hc
  · rw [osgiChar_of_isAlphanum hc]
  · rcases isSeparator_iff.mp hc with rfl | rfl | rfl <;> decide

theorem isAlpha_toLower (c : Char) : c.toLower.isAlpha = c.isAlpha := by
  by_cases hupper : 'A'.val ≤ c.val ∧ c.val ≤ 'Z'.val
  · have hcode : c.toLower.toNat = (c.val + ('a'.val - 'A'.val)).toNat := by
      delta Char.toLower
      rw [dif_pos hupper]
      rfl
    simp [UInt32.le_iff_toNat_le, UInt32.toNat_add] at hupper hcode
    rw [Bool.eq_iff_iff, isAlpha_iff_toNat, isAlpha_iff_toNat]
    omega
  · delta Char.toLower
    rw [dif_neg hupper]

theorem labelChar_of_isSeparator {c : Char} (hc : isSeparator c = true) : labelChar c = '-' := by
  simp [labelChar, hc]

/-- Bases do not tell letters of different case apart, but letters from other characters. -/
theorem isAlpha_labelChar (c : Char) : (labelChar c).isAlpha = c.isAlpha := by
  rw [labelChar]
  split
  · rename_i hc
    rw [isAlpha_of_isSeparator hc]
    rfl
  · exact isAlpha_toLower c

end BuildAlign.Version
