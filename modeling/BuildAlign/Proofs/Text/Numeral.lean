import BuildAlign.Text.Digits
import Mathlib.Data.List.Induction

/-!
Writing numerals. A numeral with leading zeros is given back by the number it writes together with
its width, and a number that fits into 64 bits is read back from every width it is written with.
-/

namespace BuildAlign.Text

theorem digit_bounds {d : Char} (hd : d.isDigit = true) : 48 ≤ d.toNat ∧ d.toNat ≤ 57 := by
  simpa using Char.isDigit_iff_toNat.mp hd

theorem toNat_digit_lt {d : Char} (hd : d.isDigit = true) : d.toNat - 48 < 10 := by
  have hbounds := digit_bounds hd
  omega

theorem digitChar_toNat {d : Char} (hd : d.isDigit = true) :
    Nat.digitChar (d.toNat - 48) = d := by
  have hbounds := digit_bounds hd
  apply Char.toNat_inj.mp
  rw [Nat.toNat_digitChar_of_lt_ten (toNat_digit_lt hd)]
  omega

theorem toDigits_digit {d : Char} (hd : d.isDigit = true) :
    Nat.toDigits 10 (d.toNat - 48) = [d] := by
  rw [Nat.toDigits_of_lt_base (toNat_digit_lt hd), digitChar_toNat hd]

/-- The last digit of a numeral is its lowest one. -/
theorem numeral_concat (ds : List Char) (d : Char) :
    numeral (ds ++ [d]) = 10 * numeral ds + (d.toNat - 48) := by
  simp [numeral]

/-- One more digit at the end of a numeral widens it by one. -/
theorem padded_concat {width n : Nat} {d : Char} (hwidth : 0 < width) (hd : d.isDigit = true) :
    padded (width + 1) (10 * n + (d.toNat - 48)) = padded width n ++ [d] := by
  rcases Nat.eq_zero_or_pos n with rfl | hpos
  · -- a leading zero is padding in the longer numeral and a digit of its own in the shorter one
    obtain ⟨w, rfl⟩ : ∃ w, width = w + 1 := ⟨width - 1, by omega⟩
    simp [padded, toDigits_digit hd, List.replicate_succ']
  · have hdigits : Nat.toDigits 10 (10 * n + (d.toNat - 48)) = Nat.toDigits 10 n ++ [d] := by
      rw [← Nat.toDigits_append_toDigits (by decide) hpos (toNat_digit_lt hd), toDigits_digit hd]
    simp [padded, hdigits]

/-- Writing the number of a numeral with the width of the numeral gives the numeral back. -/
theorem padded_numeral {ds : List Char} (hne : ds ≠ []) (hds : ∀ d ∈ ds, d.isDigit = true) :
    padded ds.length (numeral ds) = ds := by
  induction ds using List.reverseRecOn with
  | nil => exact absurd rfl hne
  | append_singleton front d ih =>
    have hd : d.isDigit = true := hds d (by simp)
    have hfront : ∀ c ∈ front, c.isDigit = true := fun c hc => hds c (by simp [hc])
    rw [numeral_concat, List.length_append, List.length_singleton]
    by_cases hempty : front = []
    · subst hempty
      simp [padded, numeral, toDigits_digit hd]
    · rw [padded_concat (List.length_pos_iff.mpr hempty) hd, ih hempty hfront]

theorem padded_ne_nil (width n : Nat) : padded width n ≠ [] := by
  simp [padded]

theorem le_length_padded (width n : Nat) : width ≤ (padded width n).length := by
  simp only [padded, List.length_append, List.length_replicate]
  omega

theorem isDigit_of_mem_padded {width n : Nat} {d : Char} (hd : d ∈ padded width n) :
    d.isDigit = true := by
  simp only [padded, List.mem_append, List.mem_replicate] at hd
  rcases hd with ⟨_, rfl⟩ | hd
  · decide
  · exact Nat.isDigit_of_mem_toDigits (by decide) (by decide) hd

/-- Padding does not change the number. -/
theorem numeral_padded (width n : Nat) : numeral (padded width n) = n := by
  change Nat.ofDigitChars 10 (padded width n) 0 = n
  simp [padded, Nat.ofDigitChars_append]

theorem word?_eq_some_iff {ds : List Char} {n : Nat} :
    word? ds = some n ↔
      ds ≠ [] ∧ (∀ d ∈ ds, d.isDigit = true) ∧ numeral ds ≤ maxWord ∧ numeral ds = n := by
  unfold word?
  split
  · rename_i h
    simp only [reduceCtorEq, false_iff]
    simp at h
    grind
  · rename_i h
    simp at h
    simp
    grind

/-- A number of at most 64 bits is read back from every width. -/
theorem word?_padded {width n : Nat} (hn : n ≤ maxWord) : word? (padded width n) = some n :=
  word?_eq_some_iff.mpr ⟨padded_ne_nil width n, fun _ => isDigit_of_mem_padded,
    by rwa [numeral_padded], numeral_padded width n⟩

end BuildAlign.Text
