import BuildAlign.Proofs.Version.Tidy

/-!
Plain version texts, as people write them: a numeric core, then words, then a number, then the
snapshot marker, each of the last three optional. Reading a plain text gives a tidy version, but not
always the parts of the grammar: a number after a core without words continues the core, and a
number of more than 64 bits belongs to the qualifier.
-/

namespace BuildAlign

/-- The parts of a plain version text. -/
structure PlainText where
  core : List (List Char)
  core_ne_nil : core ≠ []
  core_numerals : ∀ s ∈ core, Text.isNumeral s = true
  /-- The words, with the separator in front of them if there is one. -/
  label : Option (Option Char × List Char)
  label_words : ∀ l ∈ label,
    (∀ c ∈ l.1, Version.isSeparator c = true) ∧ Version.Words ['.', '-'] l.2
  /-- The number, with the separator in front of it. -/
  number : Option (Char × List Char)
  number_digits : ∀ n ∈ number, (n.1 = '.' ∨ n.1 = '-') ∧ Text.isNumeral n.2 = true
  marker : Option (List Char)
  marker_spelling : ∀ m ∈ marker, Version.IsMarker m

namespace PlainText

def labelChars (p : PlainText) : List Char :=
  (p.label.map fun l => l.1.toList ++ l.2).getD []

def numberChars (p : PlainText) : List Char :=
  (p.number.map fun n => n.1 :: n.2).getD []

def chars (p : PlainText) : List Char :=
  Version.joinSegments p.core ++ p.labelChars ++ p.numberChars ++ p.marker.getD []

end PlainText

namespace Version

/-- A text that follows the grammar of plain versions. -/
def IsPlain (text : String) : Prop :=
  ∃ p : PlainText, text.toList = p.chars

/-- A numeric core alone is plain. -/
theorem isPlain_core {text : String} (core : List (List Char)) (hne : core ≠ [])
    (hcore : ∀ s ∈ core, Text.isNumeral s = true) (htext : text.toList = joinSegments core) :
    IsPlain text := by
  refine ⟨{
    core := core
    core_ne_nil := hne
    core_numerals := hcore
    label := none
    label_words := nofun
    number := none
    number_digits := nofun
    marker := none
    marker_spelling := nofun }, ?_⟩
  simp [htext, PlainText.chars, PlainText.labelChars, PlainText.numberChars]

theorem isSeparator_of_mem_joints {c : Char} (hc : c ∈ ['.', '-']) : isSeparator c = true :=
  List.all_eq_true.mp (by decide) c hc

end Version

namespace PlainText

open Version

def withoutNumber (p : PlainText) : Version where
  core := p.core
  separator := p.label.bind Prod.fst
  qualifier := (p.label.map Prod.snd).getD []
  build := none
  snapshot := p.marker

theorem tail_withoutNumber (p : PlainText) : p.withoutNumber.tail = p.labelChars := by
  cases hlabel : p.label <;> simp [withoutNumber, Version.tail, labelChars, hlabel]

/-- A plain version without its number is tidy: what is left of it reads back as the same parts.
This is where the grammar of plain versions is used; later results only need that a version is tidy.
-/
theorem tidy_withoutNumber (p : PlainText) : p.withoutNumber.Tidy := by
  have hsegmented : ∀ l ∈ p.label, Segmented l.2 := fun l hl =>
    Words.segmented (fun _ => isSeparator_of_mem_joints) (p.label_words l hl).2
  cases hlabel : p.label with
  | none =>
    have htail : p.withoutNumber.tail = [] := by rw [tail_withoutNumber, labelChars, hlabel]; rfl
    exact {
      core_ne_nil := p.core_ne_nil
      core_numerals := p.core_numerals
      separator_separates := by simp [withoutNumber, hlabel]
      qualifier_segmented := .inl (by simp [withoutNumber, hlabel])
      boundary := by simp [withoutNumber, hlabel]
      build_legible := by simp [withoutNumber]
      snapshot_marker := p.marker_spelling
      separator_none := by simp [withoutNumber, hlabel]
      build_dash := by simp [withoutNumber]
      unnumbered := fun _ => by rw [htail]; rfl
      unmarked := by
        rw [htail]
        rintro ⟨front, m, heq, hm⟩
        have hlength := congrArg List.length heq
        rw [List.length_append, hm.length_eq, List.length_nil] at hlength
        omega }
  | some l =>
    obtain ⟨hseparator, hwords⟩ := p.label_words l hlabel
    have hends : EndsInWord p.withoutNumber.tail := by
      rw [tail_withoutNumber, labelChars, hlabel, Option.map_some, Option.getD_some]
      cases hl : l.1 with
      | none => exact Words.endsInWord (fun _ => isSeparator_of_mem_joints) hwords
      | some c =>
        exact (Words.endsInWord (fun _ => isSeparator_of_mem_joints) hwords).append
          (hseparator c hl) []
    exact {
      core_ne_nil := p.core_ne_nil
      core_numerals := p.core_numerals
      separator_separates := by simpa [withoutNumber, hlabel] using hseparator
      qualifier_segmented := .inr (by simpa [withoutNumber, hlabel] using hsegmented l hlabel)
      boundary := by
        intro _ c hc
        apply isDigit_of_isAlpha
        exact Words.head_isAlpha hwords (by simpa [withoutNumber, hlabel] using hc)
      build_legible := by simp [withoutNumber]
      snapshot_marker := p.marker_spelling
      separator_none := by
        intro hnil
        exact absurd (by simpa [withoutNumber, hlabel] using hnil) hwords.ne_nil
      build_dash := by simp [withoutNumber]
      unnumbered := fun _ => hends.splitBuild_eq
      unmarked := hends.not_endsInMarker }

theorem chars_withoutNumber (p : PlainText) :
    joinSegments p.core ++ p.labelChars ++ p.numberChars ++ p.marker.getD [] =
      joinSegments p.withoutNumber.core ++ (p.withoutNumber.tail ++ p.numberChars) ++
        p.withoutNumber.snapshot.getD [] := by
  rw [tail_withoutNumber]
  simp [withoutNumber]

/-- A number after a core without words is one more segment of the core. -/
theorem tidy_of_segment (p : PlainText) {digits : List Char}
    (hdigits : Text.isNumeral digits = true) :
    Tidy { p.withoutNumber with core := p.core ++ [digits] } :=
  { p.tidy_withoutNumber with
    core_ne_nil := by simp
    core_numerals := by
      intro s hs
      rcases List.mem_append.mp hs with hs | hs
      · exact p.core_numerals s hs
      · rwa [List.mem_singleton.mp hs] }

/-- A number of at most 64 bits is a build number. -/
theorem tidy_of_build (p : PlainText) {b : Build} (hb : b.Legible)
    (hdash : p.label = none → b.separator = '-') :
    Tidy { p.withoutNumber with build := some b } :=
  { p.tidy_withoutNumber with
    build_legible := by rintro _ ⟨⟩; exact hb
    build_dash := by
      rintro hnil _ ⟨⟩
      cases hlabel : p.label with
      | none => exact hdash hlabel
      | some l =>
        exact absurd (by simpa [withoutNumber, hlabel] using hnil) (p.label_words l hlabel).2.ne_nil
    unnumbered := nofun }

theorem not_endsInMarker_of_isNumeral {digits : List Char} (hdigits : Text.isNumeral digits = true)
    (front : List Char) : ¬ EndsInMarker (front ++ digits) := by
  obtain ⟨hne, hall⟩ := isNumeral_iff.mp hdigits
  rw [← List.dropLast_concat_getLast hne, ← List.append_assoc]
  exact not_endsInMarker_of_digit (hall _ (List.getLast_mem hne))

/-- A number of more than 64 bits is the end of the qualifier. -/
theorem tidy_of_overflow (p : PlainText) {c : Char} {digits : List Char} (hc : c = '.' ∨ c = '-')
    (hdigits : Text.isNumeral digits = true) (hoverflow : Text.word? digits = none)
    (hdash : p.label = none → c = '-') :
    ∃ v : Version, v.Tidy ∧ v.core = p.core ∧ v.build = none ∧ v.snapshot = p.marker ∧
      v.tail = p.labelChars ++ c :: digits := by
  have hseparator : isSeparator c = true := by rcases hc with rfl | rfl <;> rfl
  have hsplit : splitBuild (p.labelChars ++ c :: digits) = (p.labelChars ++ c :: digits, none) := by
    have hsplit := splitBuild_of_overflow (p.labelChars ++ [c])
      (isNumeral_iff.mp hdigits).2 (by rcases hc with rfl | rfl <;> simp) hoverflow
    simpa using hsplit
  have hmarker : ¬ EndsInMarker (p.labelChars ++ c :: digits) := by
    have hmarker := not_endsInMarker_of_isNumeral hdigits (p.labelChars ++ [c])
    simpa using hmarker
  have hw := p.tidy_withoutNumber
  cases hlabel : p.label with
  | none =>
    obtain rfl : c = '-' := hdash hlabel
    have htail : p.labelChars = [] := by rw [labelChars, hlabel]; rfl
    rw [htail, List.nil_append] at hsplit hmarker
    refine ⟨{ p.withoutNumber with separator := some '-', qualifier := digits },
      { hw with
        separator_separates := by rintro _ ⟨⟩; rfl
        qualifier_segmented := .inr (segmented_of_isNumeral hdigits)
        boundary := by
          rintro (h | h)
          · cases h
          · exact absurd (Option.some.inj h) (by decide)
        separator_none := fun h => absurd h (isNumeral_iff.mp hdigits).1
        build_dash := fun _ b hb => by cases hb
        unnumbered := fun _ => hsplit
        unmarked := hmarker }, rfl, rfl, rfl, ?_⟩
    rw [htail]
    rfl
  | some l =>
    have hqualifier : p.withoutNumber.qualifier = l.2 := by simp [withoutNumber, hlabel]
    have hwords := (p.label_words l hlabel).2
    have hsegmented : Segmented l.2 :=
      Words.segmented (fun _ => isSeparator_of_mem_joints) hwords
    have htail : p.withoutNumber.separator.toList ++ (l.2 ++ c :: digits) =
        p.labelChars ++ c :: digits := by
      rw [← tail_withoutNumber, Version.tail, hqualifier, List.append_assoc]
    refine ⟨{ p.withoutNumber with qualifier := l.2 ++ c :: digits },
      { hw with
        qualifier_segmented :=
          .inr (hsegmented.append hseparator (segmented_of_isNumeral hdigits))
        boundary := by
          intro h d hd
          apply hw.boundary h d
          obtain ⟨e, q, hcons⟩ := List.exists_cons_of_ne_nil hwords.ne_nil
          simpa [hqualifier, hcons] using hd
        separator_none := fun h => absurd h (by simp)
        build_dash := fun _ b hb => by cases hb
        unnumbered := fun _ => by
          rw [Version.tail, htail]
          exact hsplit
        unmarked := by
          rw [Version.tail, htail]
          exact hmarker }, rfl, rfl, rfl, htail⟩

/-- Every plain text is the written form of a tidy version that is read back without a change. -/
theorem exists_tidy (p : PlainText) :
    ∃ v : Version, v.Tidy ∧ v.chars = p.chars ∧ v.written = v := by
  have hchars := p.chars_withoutNumber
  cases hnumber : p.number with
  | none =>
    refine ⟨p.withoutNumber, p.tidy_withoutNumber, ?_, rfl⟩
    rw [chars, hchars, chars_eq_afterCore, numberChars, hnumber]
    rfl
  | some n =>
    obtain ⟨c, digits⟩ := n
    obtain ⟨hc, hdigits⟩ := p.number_digits _ hnumber
    have hnumberChars : p.numberChars = c :: digits := by rw [numberChars, hnumber]; rfl
    rw [hnumberChars] at hchars
    by_cases hcore : p.label = none ∧ c = '.'
    · obtain ⟨hlabel, rfl⟩ := hcore
      have htail : p.withoutNumber.tail = [] := by
        rw [tail_withoutNumber, labelChars, hlabel]
        rfl
      refine ⟨_, p.tidy_of_segment hdigits, ?_, rfl⟩
      rw [chars, hnumberChars, hchars, htail, chars_eq_afterCore]
      have hcore := joinSegments_append p.core_ne_nil (List.cons_ne_nil digits [])
      simp [hcore, joinSegments, afterCore, withoutNumber, hlabel, Version.tail]
    · have hdash : p.label = none → c = '-' := fun hlabel =>
        hc.resolve_left fun hdot => hcore ⟨hlabel, hdot⟩
      cases hword : Text.word? digits with
      | some n =>
        obtain ⟨hne, hall, hfits, rfl⟩ := Text.word?_eq_some_iff.mp hword
        have hpadded : Text.padded digits.length (Text.numeral digits) = digits :=
          Text.padded_numeral hne hall
        have hb : Build.Legible ⟨c, Text.numeral digits, digits.length⟩ := ⟨hc, hfits⟩
        refine ⟨_, p.tidy_of_build hb hdash, ?_, ?_⟩
        · rw [chars, hnumberChars, hchars, chars_eq_afterCore]
          simp [afterCore, Build.chars, Build.digits, hpadded, Version.tail]
        · simp [written, Build.written, Build.digits, hpadded]
      | none =>
        obtain ⟨v, hv, hvcore, hvbuild, hvsnapshot, hvtail⟩ :=
          p.tidy_of_overflow hc hdigits hword hdash
        refine ⟨v, hv, ?_, ?_⟩
        · rw [chars, hnumberChars, chars_eq_afterCore, afterCore, hvcore, hvbuild, hvsnapshot,
            hvtail]
          simp
        · rw [written, hvbuild, Option.map_none, ← hvbuild]

end PlainText

/-- Reading a plain text gives a tidy version. -/
theorem Version.IsPlain.tidy_parse {text : String} (htext : IsPlain text) : (parse text).Tidy := by
  obtain ⟨p, hp⟩ := htext
  obtain ⟨v, hv, hchars, hwritten⟩ := p.exists_tidy
  rw [parse, hp, ← hchars, hv.legible.ofChars_chars, hwritten]
  exact hv

end BuildAlign
