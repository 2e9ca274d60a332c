import BuildAlign.Proofs.Version.Segments

/-!
Tidy versions: what reading a plain version gives, and what every change of a build number or of the
snapshot marker keeps. The invariant is split in two, because a suffix is appended in two steps: an
extensible version can take a label, and taking one makes it tidy.
-/

namespace BuildAlign.Version

/-- A version whose core and qualifier can take a further label. -/
structure Extensible (v : Version) : Prop where
  core_ne_nil : v.core ≠ []
  core_numerals : ∀ s ∈ v.core, Text.isNumeral s = true
  separator_separates : ∀ c ∈ v.separator, isSeparator c = true
  qualifier_segmented : v.qualifier = [] ∨ Segmented v.qualifier
  /-- A qualifier that could be read as a part of the core is kept apart from it. -/
  boundary : v.separator = none ∨ v.separator = some '.' →
    ∀ c, v.qualifier.head? = some c → c.isDigit = false
  build_legible : ∀ b ∈ v.build, b.Legible
  snapshot_marker : ∀ m ∈ v.snapshot, IsMarker m

/-- A version whose parts are still recognised when it is written. -/
structure Tidy (v : Version) : Prop extends Extensible v where
  separator_none : v.qualifier = [] → v.separator = none
  build_dash : v.qualifier = [] → ∀ b ∈ v.build, b.separator = '-'
  unnumbered : v.build = none → splitBuild v.tail = (v.tail, none)
  unmarked : ¬ EndsInMarker v.tail

/-! ## Tidy versions are legible -/

/-- A core ends with a digit. -/
theorem joinSegments_eq_concat {core : List (List Char)} (hne : core ≠ [])
    (hcore : ∀ s ∈ core, Text.isNumeral s = true) :
    ∃ init d, joinSegments core = init ++ [d] ∧ d.isDigit = true := by
  induction core with
  | nil => exact absurd rfl hne
  | cons s later ih =>
    cases later with
    | nil =>
      obtain ⟨hs, hdigits⟩ := isNumeral_iff.mp (hcore s (by simp))
      exact ⟨s.dropLast, s.getLast hs, (List.dropLast_concat_getLast hs).symm,
        hdigits _ (List.getLast_mem hs)⟩
    | cons t later =>
      obtain ⟨init, d, heq, hd⟩ := ih (List.cons_ne_nil t later) fun u hu => hcore u (by simp [hu])
      exact ⟨s ++ '.' :: init, d, by simp [joinSegments_cons_cons, heq], hd⟩

/-- The marker does not reach into a text that ends with a digit. -/
theorem EndsInMarker.of_append_digit {init rest : List Char} {d : Char} (hd : d.isDigit = true)
    (hs : EndsInMarker ((init ++ [d]) ++ rest)) : EndsInMarker rest := by
  obtain ⟨front, m, heq, hm⟩ := hs
  rcases List.append_eq_append_iff.mp heq with ⟨more, hfront, hrest⟩ | ⟨more, hinit, hmarker⟩
  · exact ⟨more, m, hrest, hm⟩
  · rcases List.eq_nil_or_concat more with rfl | ⟨before, c, hmore⟩
    · exact ⟨[], m, by simpa using hmarker.symm, hm⟩
    · -- the marker would contain the digit
      rw [List.concat_eq_append] at hmore
      subst hmore
      rw [← List.append_assoc] at hinit
      obtain ⟨_, hlast⟩ := List.append_inj' hinit rfl
      obtain rfl : d = c := by simpa using hlast
      obtain ⟨word, hword, _, hletters, _⟩ := hm.eq_cons
      have hmem : d ∈ '-' :: word := by
        rw [← hword, hmarker]
        simp
      rcases List.mem_cons.mp hmem with rfl | hmem
      · exact absurd hd (by decide)
      · rw [isDigit_of_isAlpha (hletters d hmem)] at hd
        exact absurd hd Bool.false_ne_true

namespace Extensible

variable {v : Version}

theorem isVersionChar_of_mem_tail (hv : v.Extensible) {c : Char} (hc : c ∈ v.tail) :
    isVersionChar c = true := by
  rw [tail, List.mem_append, Option.mem_toList] at hc
  rcases hc with hc | hc
  · exact isVersionChar_of_isSeparator (hv.separator_separates c hc)
  · rcases hv.qualifier_segmented with hnil | hsegmented
    · simp [hnil] at hc
    · exact hsegmented.isVersionChar_of_mem hc

theorem splitSeparator_tail (hv : v.Extensible) :
    splitSeparator v.tail = (v.separator, v.qualifier) := by
  cases hseparator : v.separator with
  | some c =>
    simpa [tail, hseparator] using
      splitSeparator_of_isSeparator (hv.separator_separates c hseparator) v.qualifier
  | none =>
    simp only [tail, hseparator, Option.toList_none, List.nil_append]
    apply splitSeparator_of_head
    intro c hc
    rcases hv.qualifier_segmented with hnil | hsegmented
    · simp [hnil] at hc
    · exact isSeparator_of_isAlphanum (hsegmented.head_isAlphanum hc)

/-- A nonempty qualifier with its separator does not continue the core. -/
theorem endsCore_tail (hv : v.Extensible) (hq : v.qualifier ≠ []) (rest : List Char) :
    EndsCore (v.tail ++ rest) := by
  have hsegmented : Segmented v.qualifier := hv.qualifier_segmented.resolve_left hq
  obtain ⟨c, q, hqualifier⟩ := List.exists_cons_of_ne_nil hq
  have hc : c.isAlphanum = true := hsegmented.head_isAlphanum (by simp [hqualifier])
  cases hseparator : v.separator with
  | none =>
    have hdigit : c.isDigit = false := hv.boundary (.inl hseparator) c (by simp [hqualifier])
    simp only [tail, hseparator, hqualifier]
    refine ⟨hdigit, ?_⟩
    rintro rfl
    exact absurd hc (by decide)
  | some d =>
    have hd : isSeparator d = true := hv.separator_separates d hseparator
    simp only [tail, hseparator, hqualifier]
    refine ⟨?_, ?_⟩
    · rcases isSeparator_iff.mp hd with rfl | rfl | rfl <;> rfl
    · rintro rfl e he
      obtain rfl : c = e := by simpa using he
      exact hv.boundary (.inr hseparator) c (by simp [hqualifier])

end Extensible

theorem Tidy.endsCore_afterCore {v : Version} (hv : v.Tidy) : EndsCore v.afterCore := by
  by_cases hq : v.qualifier = []
  · cases hbuild : v.build with
    | none => simp [afterCore, tail, hv.separator_none hq, hq, hbuild, EndsCore]
    | some b =>
      have hdash : b.separator = '-' := hv.build_dash hq b hbuild
      have hchars : b.chars = '-' :: b.digits := by rw [Build.chars, hdash]
      simp [afterCore, tail, hv.separator_none hq, hq, hbuild, hchars, EndsCore]
  · exact hv.endsCore_tail hq _

/-- What is tidy reads back. Being tidy is the stronger notion, as it is kept by changes of the
version. -/
theorem Tidy.legible {v : Version} (hv : v.Tidy) : v.Legible where
  core_ne_nil := hv.core_ne_nil
  core_numerals := hv.core_numerals
  tail_chars := fun _ => hv.isVersionChar_of_mem_tail
  tail_splits := hv.splitSeparator_tail
  core_ends := hv.endsCore_afterCore
  build_legible := hv.build_legible
  unnumbered := hv.unnumbered
  unmarked := fun _ hmarker => by
    obtain ⟨init, d, hcore, hd⟩ := joinSegments_eq_concat hv.core_ne_nil hv.core_numerals
    rw [hcore] at hmarker
    exact hv.unmarked (hmarker.of_append_digit hd)
  snapshot_marker := hv.snapshot_marker

/-! ## Changing the build number and the snapshot marker -/

namespace Tidy

variable {v : Version}

/-- A number of 64 bits in place of the present one is cut off again at the same place. -/
theorem setBuild (hv : v.Tidy) {n : Nat} (hn : n ≤ Text.maxWord) : (v.setBuild n).Tidy where
  core_ne_nil := hv.core_ne_nil
  core_numerals := hv.core_numerals
  separator_separates := hv.separator_separates
  qualifier_segmented := hv.qualifier_segmented
  boundary := hv.boundary
  build_legible := by
    rintro b ⟨⟩
    cases hbuild : v.build with
    | none => exact ⟨.inr rfl, hn⟩
    | some b => exact ⟨(hv.build_legible b hbuild).separator, hn⟩
  snapshot_marker := hv.snapshot_marker
  separator_none := hv.separator_none
  build_dash := by
    rintro hq b ⟨⟩
    cases hbuild : v.build with
    | none => rfl
    | some b => exact hv.build_dash hq b hbuild
  unnumbered := nofun
  unmarked := hv.unmarked

/-- The marker stands behind everything else, so adding or removing it moves no cut. -/
theorem setSnapshot (hv : v.Tidy) (on : Bool) : (v.setSnapshot on).Tidy where
  core_ne_nil := hv.core_ne_nil
  core_numerals := hv.core_numerals
  separator_separates := hv.separator_separates
  qualifier_segmented := hv.qualifier_segmented
  boundary := hv.boundary
  build_legible := hv.build_legible
  snapshot_marker := by
    intro m hm
    cases on with
    | false => simp [Version.setSnapshot] at hm
    | true =>
      cases hsnapshot : v.snapshot with
      | none =>
        obtain rfl : snapshotMarker = m := by simpa [Version.setSnapshot, hsnapshot] using hm
        decide
      | some marker =>
        obtain rfl : marker = m := by simpa [Version.setSnapshot, hsnapshot] using hm
        exact hv.snapshot_marker marker hsnapshot
  separator_none := hv.separator_none
  build_dash := hv.build_dash
  unnumbered := hv.unnumbered
  unmarked := hv.unmarked

end Tidy

end BuildAlign.Version
