import BuildAlign.Proofs.Version.SuffixParts
import BuildAlign.Proofs.Version.Tidy
import BuildAlign.Version.Base

/-!
Appending plain labels. A label goes behind the core, behind the qualifier, or in place of the same
label at the end of the qualifier, and in all three cases a tidy version stays tidy. Where the label
is new, the text of before stays as it is in front of it.
-/

namespace BuildAlign.Version

/-! ## Labels -/

/-- Words joined by dashes, without a number: what is appended to a version. -/
abbrev IsLabel : List Char → Prop :=
  Words ['-']

theorem isSeparator_of_mem_dash {c : Char} (hc : c ∈ ['-']) : isSeparator c = true := by
  obtain rfl : c = '-' := by simpa using hc
  rfl

theorem IsLabel.segmented {label : List Char} (hl : IsLabel label) : Segmented label :=
  Words.segmented (fun _ => isSeparator_of_mem_dash) hl

theorem IsLabel.endsInWord {label : List Char} (hl : IsLabel label) : EndsInWord label :=
  Words.endsInWord (fun _ => isSeparator_of_mem_dash) hl

namespace Extensible

variable {v : Version}

/-- After the core a label is appended with a dot. -/
theorem insertionSeparator_of_nil (hv : v.Extensible) (hq : v.qualifier = []) :
    v.insertionSeparator = some '.' := by
  have hlast := List.getLast?_eq_some_getLast hv.core_ne_nil
  have hnumeral := hv.core_numerals _ (List.getLast_mem hv.core_ne_nil)
  simp [insertionSeparator, hq, hlast, hnumeral]

/-- After a segment a label is appended with a dot or a dash. -/
theorem insertionSeparator_of_segmented (hq : Segmented v.qualifier) :
    ∃ c, v.insertionSeparator = some c ∧ (c = '.' ∨ c = '-') := by
  have hspan := hq.spanEnd_ne_nil
  rw [insertionSeparator, if_neg hq.ne_nil]
  split
  · rename_i hnil
    exact absurd hnil hspan
  · refine ⟨_, rfl, ?_⟩
    dsimp only
    split
    · exact .inl rfl
    · exact .inr rfl

/-- Where a label goes: after the core with a dot, or after the qualifier with a separator. -/
theorem appendLabel_cases (hv : v.Extensible) (label : List Char) :
    (v.qualifier = [] ∧
      appendLabel v label = { v with separator := some '.', qualifier := label }) ∨
    (Segmented v.qualifier ∧ ∃ c, isSeparator c = true ∧
      appendLabel v label = { v with qualifier := v.qualifier ++ c :: label }) := by
  by_cases hq : v.qualifier = []
  · left
    rw [appendLabel, if_pos hq, hv.insertionSeparator_of_nil hq]
    exact ⟨hq, rfl⟩
  · right
    have hsegmented : Segmented v.qualifier := hv.qualifier_segmented.resolve_left hq
    obtain ⟨c, hinsert, hc⟩ := insertionSeparator_of_segmented hsegmented
    refine ⟨hsegmented, c, ?_, ?_⟩
    · rcases hc with rfl | rfl <;> rfl
    · rw [appendLabel, if_neg hq, hinsert]
      simp

/-- A label of words makes a version tidy: what is behind the core then neither ends in digits nor
in the marker. -/
theorem tidy_appendLabel (hv : v.Extensible) {label : List Char} (hl : IsLabel label) :
    (appendLabel v label).Tidy := by
  rcases hv.appendLabel_cases label with ⟨_, heq⟩ | ⟨hq, c, hc, heq⟩
  · rw [heq]
    have htail : EndsInWord ('.' :: label) := hl.endsInWord.append (by decide) []
    exact {
      core_ne_nil := hv.core_ne_nil
      core_numerals := hv.core_numerals
      separator_separates := by rintro _ ⟨⟩; decide
      qualifier_segmented := .inr hl.segmented
      boundary := fun _ c hc => isDigit_of_isAlpha (hl.head_isAlpha hc)
      build_legible := hv.build_legible
      snapshot_marker := hv.snapshot_marker
      separator_none := fun hnil => absurd hnil hl.ne_nil
      build_dash := fun hnil => absurd hnil hl.ne_nil
      unnumbered := fun _ => htail.splitBuild_eq
      unmarked := htail.not_endsInMarker }
  · rw [heq]
    have hne : v.qualifier ++ c :: label ≠ [] := by simp
    have htail : EndsInWord (v.separator.toList ++ (v.qualifier ++ c :: label)) := by
      rw [← List.append_assoc]
      exact hl.endsInWord.append hc _
    exact {
      core_ne_nil := hv.core_ne_nil
      core_numerals := hv.core_numerals
      separator_separates := hv.separator_separates
      qualifier_segmented := .inr (hq.append hc hl.segmented)
      boundary := by
        intro hseparator d hd
        apply hv.boundary hseparator d
        obtain ⟨e, q, hqualifier⟩ := List.exists_cons_of_ne_nil hq.ne_nil
        simpa [hqualifier] using hd
      build_legible := hv.build_legible
      snapshot_marker := hv.snapshot_marker
      separator_none := fun hnil => absurd hnil hne
      build_dash := fun hnil => absurd hnil hne
      unnumbered := fun _ => htail.splitBuild_eq
      unmarked := htail.not_endsInMarker }

end Extensible

/-! ## Appending a suffix -/

/-- What a stripped label leaves: nothing of the label alone, and otherwise what stands before the
separator in front of the label. -/
theorem stripLabel?_eq_some {qualifier label front : List Char}
    (h : stripLabel? qualifier label = some front) :
    (qualifier = label ∧ front = []) ∨
      ∃ c, isSeparator c = true ∧ qualifier = front ++ c :: label := by
  unfold stripLabel? at h
  split at h
  · rename_i heq
    exact .inl ⟨heq, by simpa using h.symm⟩
  · right
    split at h
    · rename_i before hbefore
      split at h
      · rename_i c hlast
        split at h
        · rename_i hc
          obtain ⟨init, rfl⟩ := List.getLast?_eq_some_iff.mp hlast
          obtain rfl : init = front := by simpa using h
          exact ⟨c, hc, by simpa using Text.before?_eq_some_iff.mp hbefore⟩
        · exact absurd h nofun
      · exact absurd h nofun
    · exact absurd h nofun

/-- A label behind a separator is stripped. -/
theorem stripLabel?_append {c : Char} (hc : isSeparator c = true) (front label : List Char) :
    stripLabel? (front ++ c :: label) label = some front := by
  have hlonger : front ++ c :: label ≠ label := by
    intro hsame
    have hlength := congrArg List.length hsame
    rw [List.length_append, List.length_cons] at hlength
    omega
  have hbefore : Text.before? label (front ++ c :: label) = some (front ++ [c]) :=
    Text.before?_eq_some_iff.mpr (by simp)
  rw [stripLabel?, if_neg hlonger, hbefore]
  simp [hc]

/-- A qualifier that is a label, or ends with it behind a separator. -/
def EndsInLabel (label qualifier : List Char) : Prop :=
  qualifier = label ∨ ∃ front c, isSeparator c = true ∧ qualifier = front ++ c :: label

theorem endsInLabel_iff {label qualifier : List Char} :
    EndsInLabel label qualifier ↔ (stripLabel? qualifier label).isSome = true := by
  constructor
  · rintro (rfl | ⟨front, c, hc, rfl⟩)
    · rw [stripLabel?, if_pos rfl]
      rfl
    · rw [stripLabel?_append hc]
      rfl
  · intro hsome
    obtain ⟨front, hfront⟩ := Option.isSome_iff_exists.mp hsome
    exact (stripLabel?_eq_some hfront).imp And.left fun ⟨c, hc, heq⟩ => ⟨front, c, hc, heq⟩

instance (label qualifier : List Char) : Decidable (EndsInLabel label qualifier) :=
  decidable_of_iff _ endsInLabel_iff.symm

/-- In a label no dash is followed by a digit, and none is the last character. -/
theorem IsLabel.after_dash {label front rest : List Char} (hl : IsLabel label)
    (heq : label = front ++ '-' :: rest) : ∃ c s, rest = c :: s ∧ c.isAlpha = true := by
  induction hl generalizing front with
  | one h =>
    have hdash := h.alphanum '-' (by simp [heq])
    exact absurd hdash (by decide)
  | @more w d later h hd hlater ih =>
    obtain rfl : d = '-' := by simpa using hd
    rcases List.append_eq_append_iff.mp heq.symm with ⟨more, hw, hrest⟩ | ⟨more, _, hrest⟩
    · cases more with
      | nil =>
        obtain ⟨_, rfl⟩ := List.cons.inj hrest
        obtain ⟨c, s, hcons⟩ := List.exists_cons_of_ne_nil (Words.ne_nil hlater)
        exact ⟨c, s, hcons, Words.head_isAlpha hlater (by simp [hcons])⟩
      | cons e more =>
        obtain ⟨rfl, _⟩ := List.cons.inj hrest
        have hdash := h.alphanum '-' (by simp [hw])
        exact absurd hdash (by decide)
    · cases more with
      | nil =>
        obtain ⟨_, rfl⟩ := List.cons.inj hrest
        obtain ⟨c, s, hcons⟩ := List.exists_cons_of_ne_nil (Words.ne_nil hlater)
        exact ⟨c, s, hcons, Words.head_isAlpha hlater (by simp [hcons])⟩
      | cons e more =>
        obtain ⟨_, hlater⟩ := List.cons.inj hrest
        exact ih hlater

/-- A label is a suffix without a number. -/
theorem IsLabel.splitSuffix_eq {label : List Char} (hl : IsLabel label) :
    splitSuffix label = (label, none) := by
  have htrim : Text.trim label = label :=
    Text.trim_eq_self fun _ => hl.segmented.isBlankChar_of_mem
  obtain ⟨c, s, hcons⟩ := List.exists_cons_of_ne_nil (Words.ne_nil hl)
  have hletter : c.isDigit = false :=
    isDigit_of_isAlpha (Words.head_isAlpha hl (by simp [hcons]))
  have hnumeral : Text.isNumeral label = false := by simp [Text.isNumeral, hcons, hletter]
  have hnumber : ∀ front digits, Text.trim label = front ++ '-' :: digits →
      Text.word? digits = none := by
    intro front digits hs
    obtain ⟨d, t, rfl, hd⟩ := hl.after_dash (htrim.symm.trans hs)
    rw [Option.eq_none_iff_forall_ne_some]
    intro n hword
    have hdigit := (Text.word?_eq_some_iff.mp hword).2.1 d (by simp)
    rw [isDigit_of_isAlpha hd] at hdigit
    exact Bool.false_ne_true hdigit
  rw [splitSuffix_of_no_number hnumber, htrim, hnumeral, if_neg Bool.false_ne_true]

namespace Tidy

variable {v : Version}

/-- Moving the build number into the qualifier leaves an extensible version. -/
theorem extensible_foldBuild (hv : v.Tidy) (number : Option Build)
    (hnumber : ∀ b ∈ number, b.Legible) : Extensible { v.foldBuild with build := number } := by
  cases hbuild : v.build with
  | none =>
    simp only [foldBuild, hbuild]
    exact { hv.toExtensible with build_legible := hnumber }
  | some b =>
    have hb := hv.build_legible b hbuild
    have hdigits : Text.isNumeral b.digits = true :=
      isNumeral_iff.mpr ⟨b.digits_ne_nil, fun _ => Build.isDigit_of_mem_digits⟩
    have hseparator : isSeparator b.separator = true := by
      rcases hb.separator with hdot | hdash
      · rw [hdot]; rfl
      · rw [hdash]; rfl
    by_cases hq : v.qualifier = []
    · have hdash : b.separator = '-' := hv.build_dash hq b hbuild
      simp only [foldBuild, hbuild, hq, if_pos]
      exact {
        core_ne_nil := hv.core_ne_nil
        core_numerals := hv.core_numerals
        separator_separates := by rintro _ ⟨⟩; exact hseparator
        qualifier_segmented := .inr (segmented_of_isNumeral hdigits)
        boundary := by
          rw [hdash]
          rintro (h | h)
          · exact absurd h nofun
          · exact absurd (Option.some.inj h) (by decide)
        build_legible := hnumber
        snapshot_marker := hv.snapshot_marker }
    · simp only [foldBuild, hbuild, if_neg hq]
      have hsegmented : Segmented v.qualifier := hv.qualifier_segmented.resolve_left hq
      exact {
        core_ne_nil := hv.core_ne_nil
        core_numerals := hv.core_numerals
        separator_separates := hv.separator_separates
        qualifier_segmented :=
          .inr (hsegmented.append hseparator (segmented_of_isNumeral hdigits))
        boundary := by
          intro h c hc
          apply hv.boundary h c
          obtain ⟨d, q, hqualifier⟩ := List.exists_cons_of_ne_nil hq
          simpa [hqualifier] using hc
        build_legible := hnumber
        snapshot_marker := hv.snapshot_marker }

/-- Stripping a label off the qualifier leaves an extensible version. -/
theorem extensible_strip (hv : v.Tidy) {label front : List Char}
    (hstrip : stripLabel? v.qualifier label = some front) (number : Option Build)
    (hnumber : ∀ b ∈ number, b.Legible) :
    Extensible { v with
      separator := if front = [] then none else v.separator
      qualifier := front
      build := number } := by
  rcases stripLabel?_eq_some hstrip with ⟨_, rfl⟩ | ⟨c, hc, hqualifier⟩
  · exact {
      core_ne_nil := hv.core_ne_nil
      core_numerals := hv.core_numerals
      separator_separates := nofun
      qualifier_segmented := .inl rfl
      boundary := nofun
      build_legible := hnumber
      snapshot_marker := hv.snapshot_marker }
  · have hsegmented : Segmented v.qualifier :=
      hv.qualifier_segmented.resolve_left (by simp [hqualifier])
    have hfront : Segmented front := Segmented.of_append (hqualifier ▸ hsegmented) hc
    rw [if_neg hfront.ne_nil]
    exact {
      core_ne_nil := hv.core_ne_nil
      core_numerals := hv.core_numerals
      separator_separates := hv.separator_separates
      qualifier_segmented := .inr hfront
      boundary := by
        intro h d hd
        apply hv.boundary h d
        obtain ⟨e, q, hcons⟩ := List.exists_cons_of_ne_nil hfront.ne_nil
        simpa [hqualifier, hcons] using hd
      build_legible := hnumber
      snapshot_marker := hv.snapshot_marker }

/-- Appending a label, with or without a number, keeps a version tidy. -/
theorem appendSuffix (hv : v.Tidy) {suffix label : List Char} {number : Option Build}
    (hsuffix : splitSuffix suffix = (label, number)) (hl : IsLabel label)
    (hnumber : ∀ b ∈ number, b.Legible) : (v.appendSuffix suffix).Tidy := by
  rcases appendSuffix_cases v hsuffix (Words.ne_nil hl) with ⟨front, hstrip, heq⟩ | ⟨_, heq⟩
  · rw [heq]
    apply Extensible.tidy_appendLabel _ hl
    apply hv.extensible_strip hstrip
    intro b hb
    rcases Option.or_eq_some_iff.mp hb with hb | ⟨_, hb⟩
    · exact hnumber b hb
    · exact hv.build_legible b hb
  · rw [heq]
    exact (hv.extensible_foldBuild number hnumber).tidy_appendLabel hl

/-- A replaced label keeps the base and the build number, and a new one starts without a number. -/
theorem build_appendSuffix (hv : v.Tidy) {label : List Char} (hl : IsLabel label) :
    (v.appendSuffix label).build = none ∨
      (v.appendSuffix label).base = v.base ∧ (v.appendSuffix label).build = v.build := by
  rcases appendSuffix_cases v hl.splitSuffix_eq (Words.ne_nil hl) with ⟨front, hstrip, heq⟩ | ⟨_, heq⟩
  · right
    have hextensible := hv.extensible_strip hstrip v.build hv.build_legible
    rw [heq, Option.none_or]
    rcases hextensible.appendLabel_cases label with ⟨hnil, happend⟩ | ⟨hsegmented, c, hc, happend⟩
    · rw [happend]
      refine ⟨?_, rfl⟩
      rcases stripLabel?_eq_some hstrip with ⟨hqualifier, _⟩ | ⟨d, hd, hqualifier⟩
      · simp [base, hqualifier]
      · -- a label behind a separator leaves something in front of it
        have hfront : front = [] := hnil
        subst hfront
        have hq := hv.qualifier_segmented.resolve_left (by simp [hqualifier])
        have hhead := hq.head_isAlphanum (c := d) (by simp [hqualifier])
        rw [isSeparator_of_isAlphanum hhead] at hd
        exact absurd hd Bool.false_ne_true
    · rw [happend]
      refine ⟨?_, rfl⟩
      rcases stripLabel?_eq_some hstrip with ⟨_, hfront⟩ | ⟨d, hd, hqualifier⟩
      · exact absurd hfront hsegmented.ne_nil
      · simp [base, hqualifier, labelChar_of_isSeparator hc, labelChar_of_isSeparator hd]
  · left
    rw [heq]
    unfold appendLabel
    split <;> rfl

/-- Moving the build number into the qualifier does not change the text. -/
theorem tail_foldBuild (hv : v.Tidy) : v.foldBuild.tail = v.afterCore := by
  rw [foldBuild, afterCore]
  cases hbuild : v.build with
  | none => exact (List.append_nil _).symm
  | some b =>
    dsimp only
    split
    · rename_i hq
      simp [tail, hq, hv.separator_none hq, Build.chars]
    · simp [tail]

/-- A new label goes behind the build number, with a separator in front of it. -/
theorem afterCore_appendSuffix (hv : v.Tidy) {suffix label : List Char} {number : Option Build}
    (hsuffix : splitSuffix suffix = (label, number)) (hl : IsLabel label)
    (hnumber : ∀ b ∈ number, b.Legible) (hnew : stripLabel? v.qualifier label = none) :
    (v.appendSuffix suffix).core = v.core ∧ (v.appendSuffix suffix).build = number ∧
      ∃ c, isSeparator c = true ∧ (v.appendSuffix suffix).tail = v.afterCore ++ c :: label := by
  have hextensible := hv.extensible_foldBuild number hnumber
  have hcore : v.foldBuild.core = v.core := by
    rw [foldBuild]
    split
    · rfl
    · split <;> rfl
  rcases appendSuffix_cases v hsuffix (Words.ne_nil hl) with ⟨front, hstrip, _⟩ | ⟨_, heq⟩
  · rw [hnew] at hstrip
    cases hstrip
  · rw [heq, ← hv.tail_foldBuild, ← hcore]
    rcases hextensible.appendLabel_cases label with ⟨hq, happend⟩ | ⟨_, c, hc, happend⟩
    · have hq : v.foldBuild.qualifier = [] := hq
      have hseparator : v.foldBuild.separator = none := by
        rw [foldBuild] at hq ⊢
        split at hq
        · exact hv.separator_none hq
        · rename_i b _
          split at hq
          · exact absurd hq b.digits_ne_nil
          · exact absurd (List.append_eq_nil_iff.mp hq).2 (List.cons_ne_nil _ _)
      rw [happend]
      exact ⟨rfl, rfl, '.', rfl, by simp [tail, hq, hseparator]⟩
    · rw [happend]
      exact ⟨rfl, rfl, c, hc, by simp [tail]⟩

theorem segmented_appendSuffix (hv : v.Tidy) {label : List Char}
    (hl : IsLabel label) : Segmented (v.appendSuffix label).qualifier := by
  apply (hv.appendSuffix hl.splitSuffix_eq hl nofun).qualifier_segmented.resolve_left
  intro hnil
  rcases appendSuffix_cases v hl.splitSuffix_eq (Words.ne_nil hl) with ⟨front, _, heq⟩ | ⟨_, heq⟩
  all_goals
    rw [heq, appendLabel] at hnil
    split at hnil
    · exact hl.ne_nil hnil
    · exact hl.ne_nil (List.append_eq_nil_iff.mp hnil).2

end Tidy

end BuildAlign.Version
