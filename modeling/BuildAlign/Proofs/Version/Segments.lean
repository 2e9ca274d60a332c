import BuildAlign.Proofs.Version.Legible

/-!
Texts made of segments. A label is joined from parts by single characters: segments of letters and
digits in a qualifier, words in a rebuild suffix. What matters for reading is how such a text starts
and ends, and that a label at its end can be cut off at the separator in front of it.
-/

namespace BuildAlign.Version

/-- Parts that are joined by single characters. -/
inductive Joined (part : List Char → Prop) (joint : Char → Prop) : List Char → Prop
  | one {s : List Char} : part s → Joined part joint s
  | more {s : List Char} {c : Char} {rest : List Char} :
      part s → joint c → Joined part joint rest → Joined part joint (s ++ c :: rest)

/-- A nonempty run of letters and digits. -/
def IsSegment (s : List Char) : Prop :=
  s ≠ [] ∧ ∀ c ∈ s, c.isAlphanum = true

abbrev Segmented : List Char → Prop :=
  Joined IsSegment (isSeparator · = true)

/-- A segment that starts with a letter and is not the word of the snapshot marker. -/
structure IsWord (w : List Char) : Prop where
  starts : ∃ c s, w = c :: s ∧ c.isAlpha = true
  alphanum : ∀ c ∈ w, c.isAlphanum = true
  unmarked : w.map Char.toUpper ≠ snapshotMarker.tail

instance : DecidablePred IsWord := fun w =>
  decidable_of_iff ((w.head?.map Char.isAlpha).getD false = true ∧ w.all Char.isAlphanum = true ∧
      w.map Char.toUpper ≠ snapshotMarker.tail) <| by
    constructor
    · rintro ⟨hstarts, halphanum, hunmarked⟩
      refine ⟨?_, List.all_eq_true.mp halphanum, hunmarked⟩
      cases w with
      | nil => exact absurd hstarts Bool.false_ne_true
      | cons c s => exact ⟨c, s, rfl, hstarts⟩
    · rintro ⟨⟨c, s, rfl, hc⟩, halphanum, hunmarked⟩
      exact ⟨hc, List.all_eq_true.mpr halphanum, hunmarked⟩

abbrev Words (joints : List Char) : List Char → Prop :=
  Joined IsWord (· ∈ joints)

theorem Joined.mono {part part' : List Char → Prop} {joint joint' : Char → Prop} {s : List Char}
    (hpart : ∀ s, part s → part' s) (hjoint : ∀ c, joint c → joint' c)
    (hs : Joined part joint s) : Joined part' joint' s := by
  induction hs with
  | one h => exact .one (hpart _ h)
  | more h hc _ ih => exact .more (hpart _ h) (hjoint _ hc) ih

/-- Two texts of joined parts, with a joint in between. -/
theorem Joined.append {part : List Char → Prop} {joint : Char → Prop} {s t : List Char} {c : Char}
    (hs : Joined part joint s) (hc : joint c) (ht : Joined part joint t) :
    Joined part joint (s ++ c :: t) := by
  induction hs with
  | one h => exact .more h hc ht
  | more h hd _ ih =>
    rw [List.append_assoc, List.cons_append]
    exact .more h hd ih

theorem IsWord.isSegment {w : List Char} (hw : IsWord w) : IsSegment w := by
  obtain ⟨c, s, rfl, _⟩ := hw.starts
  exact ⟨List.cons_ne_nil c s, hw.alphanum⟩

theorem Words.segmented {joints s : List Char} (hjoints : ∀ c ∈ joints, isSeparator c = true)
    (hs : Words joints s) : Segmented s :=
  hs.mono (fun _ => IsWord.isSegment) hjoints

theorem segmented_of_isNumeral {s : List Char} (hs : Text.isNumeral s = true) : Segmented s := by
  obtain ⟨hne, hdigits⟩ := isNumeral_iff.mp hs
  exact .one ⟨hne, fun c hc => isAlphanum_of_isDigit (hdigits c hc)⟩

/-! ## Segments -/

namespace Segmented

variable {s : List Char}

theorem ne_nil (hs : Segmented s) : s ≠ [] := by
  cases hs with
  | one h => exact h.1
  | more h _ _ => simp

theorem char_of_mem (hs : Segmented s) {c : Char} (hc : c ∈ s) :
    c.isAlphanum = true ∨ isSeparator c = true := by
  induction hs with
  | one h => exact .inl (h.2 c hc)
  | more h hsep _ ih =>
    rcases List.mem_append.mp hc with hc | hc
    · exact .inl (h.2 c hc)
    · rcases List.mem_cons.mp hc with rfl | hc
      · exact .inr hsep
      · exact ih hc

theorem isVersionChar_of_mem (hs : Segmented s) {c : Char} (hc : c ∈ s) :
    isVersionChar c = true := by
  rcases hs.char_of_mem hc with hc | hc
  · exact isVersionChar_of_isAlphanum hc
  · exact isVersionChar_of_isSeparator hc

theorem isBlankChar_of_mem (hs : Segmented s) {c : Char} (hc : c ∈ s) :
    Text.isBlankChar c = false := by
  rcases hs.char_of_mem hc with hc | hc
  · exact isBlankChar_of_isAlphanum hc
  · rcases isSeparator_iff.mp hc with rfl | rfl | rfl <;> rfl

theorem head_isAlphanum (hs : Segmented s) {c : Char} (hc : s.head? = some c) :
    c.isAlphanum = true := by
  cases hs with
  | one h => exact h.2 c (List.mem_of_mem_head? hc)
  | @more t d rest h _ _ =>
    cases t with
    | nil => exact absurd rfl h.1
    | cons e t =>
      obtain rfl : e = c := by simpa using hc
      exact h.2 e (by simp)

/-- A segmented text ends with a segment, after a separator if with anything else. -/
theorem ends (hs : Segmented s) :
    ∃ front segment, s = front ++ segment ∧ IsSegment segment ∧
      ∀ c, front.getLast? = some c → isSeparator c = true := by
  induction hs with
  | @one t h => exact ⟨[], t, rfl, h, by simp⟩
  | @more t d rest h hd _ ih =>
    obtain ⟨front, segment, rfl, hsegment, hfront⟩ := ih
    refine ⟨t ++ d :: front, segment, by simp, hsegment, ?_⟩
    intro c hc
    cases front with
    | nil =>
      obtain rfl : d = c := by simpa using hc
      exact hd
    | cons e front => exact hfront c (by simpa using hc)

/-- A separator cuts a segmented text into segmented texts. -/
theorem of_append {front rest : List Char} {c : Char} (hs : Segmented (front ++ c :: rest))
    (hc : isSeparator c = true) : Segmented front := by
  generalize htext : front ++ c :: rest = text at hs
  induction hs generalizing front with
  | one h =>
    have hmem : c.isAlphanum = true := h.2 c (by simp [← htext])
    rw [isSeparator_of_isAlphanum hmem] at hc
    exact absurd hc Bool.false_ne_true
  | @more t d later h hd _ ih =>
    rcases List.append_eq_append_iff.mp htext with ⟨more, ht, hlater⟩ | ⟨more, hfront, hrest⟩
    · -- the cut is not behind the first segment, and the segment itself has no separator
      cases more with
      | nil =>
        rw [List.append_nil] at ht
        exact .one (ht ▸ h)
      | cons e more =>
        obtain rfl : c = e := by simpa using (List.cons.inj hlater).1
        have hmem : c.isAlphanum = true := h.2 c (by simp [ht])
        rw [isSeparator_of_isAlphanum hmem] at hc
        exact absurd hc Bool.false_ne_true
    · cases more with
      | nil =>
        rw [List.append_nil] at hfront
        exact .one (hfront ▸ h)
      | cons e more =>
        obtain ⟨rfl, hlater⟩ := List.cons.inj hrest
        rw [hfront]
        exact .more h hd (ih hlater.symm)

/-- The last segment is what follows the last separator, and it is not empty. -/
theorem spanEnd_ne_nil (hs : Segmented s) :
    (Text.spanEnd (fun c => !isSeparator c) s).2 ≠ [] := by
  obtain ⟨front, segment, rfl, hsegment, hfront⟩ := hs.ends
  rw [Text.spanEnd_of_append]
  · exact hsegment.1
  · intro c hc
    simp [isSeparator_of_isAlphanum (hsegment.2 c hc)]
  · intro c hc
    simp [hfront c hc]

/-- OSGi forms of segmented texts are segmented. -/
theorem map_osgiChar (hs : Segmented s) : Segmented (s.map osgiChar) := by
  induction hs with
  | @one t h =>
    have hsame : t.map osgiChar = t := by
      rw [List.map_congr_left fun c hc => osgiChar_of_isAlphanum (h.2 c hc), List.map_id']
    rw [hsame]
    exact .one h
  | @more t d rest h hd _ ih =>
    have hsame : t.map osgiChar = t := by
      rw [List.map_congr_left fun c hc => osgiChar_of_isAlphanum (h.2 c hc), List.map_id']
    rw [List.map_append, List.map_cons, hsame]
    exact .more h (isSeparator_osgiChar hd) ih

end Segmented

/-! ## Words -/

/-- A text that ends with a word, after a separator if with anything else. -/
def EndsInWord (s : List Char) : Prop :=
  ∃ front w, s = front ++ w ∧ IsWord w ∧ ∀ c, front.getLast? = some c → isSeparator c = true

theorem EndsInWord.append {s : List Char} {c : Char} (hs : EndsInWord s)
    (hc : isSeparator c = true) (front : List Char) : EndsInWord (front ++ c :: s) := by
  obtain ⟨before, w, rfl, hw, hbefore⟩ := hs
  refine ⟨front ++ c :: before, w, by simp, hw, ?_⟩
  intro d hd
  cases before with
  | nil =>
    obtain rfl : c = d := by simpa using hd
    exact hc
  | cons e before => exact hbefore d (by simpa using hd)

theorem Words.endsInWord {joints s : List Char} (hjoints : ∀ c ∈ joints, isSeparator c = true)
    (hs : Words joints s) : EndsInWord s := by
  induction hs with
  | @one w h => exact ⟨[], w, rfl, h, by simp⟩
  | more _ hc _ ih => exact ih.append (hjoints _ hc) _

theorem Words.head_isAlpha {joints s : List Char} (hs : Words joints s) {c : Char}
    (hc : s.head? = some c) : c.isAlpha = true := by
  cases hs with
  | one h =>
    obtain ⟨d, t, rfl, hd⟩ := h.starts
    obtain rfl : d = c := by simpa using hc
    exact hd
  | more h _ _ =>
    obtain ⟨d, t, rfl, hd⟩ := h.starts
    obtain rfl : d = c := by simpa using hc
    exact hd

theorem Words.ne_nil {joints s : List Char} (hs : Words joints s) : s ≠ [] := by
  cases hs with
  | one h =>
    obtain ⟨c, t, rfl, _⟩ := h.starts
    exact List.cons_ne_nil c t
  | more h _ _ => simp

/-- Digits at the end of a word are part of it and no build number. -/
theorem EndsInWord.splitBuild_eq {s : List Char} (hs : EndsInWord s) :
    splitBuild s = (s, none) := by
  obtain ⟨front, w, rfl, hw, _⟩ := hs
  have hspan := Text.spanEnd_append Char.isDigit w
  have hrun : ∀ c ∈ (Text.spanEnd Char.isDigit w).2, c.isDigit = true :=
    List.all_eq_true.mp (Text.all_spanEnd Char.isDigit w)
  have hword : (Text.spanEnd Char.isDigit w).1 ≠ [] := by
    -- the first character of a word is a letter, so not all of the word is digits
    intro hnil
    rw [hnil, List.nil_append] at hspan
    rw [hspan] at hrun
    obtain ⟨c, t, rfl, hc⟩ := hw.starts
    have hdigit := hrun c (by simp)
    rw [isDigit_of_isAlpha hc] at hdigit
    exact Bool.false_ne_true hdigit
  rw [← hspan, ← List.append_assoc]
  apply splitBuild_of_glued _ hrun
  intro c hc
  obtain ⟨d, hd⟩ : ∃ d, (Text.spanEnd Char.isDigit w).1.getLast? = some d :=
    ⟨_, List.getLast?_eq_some_getLast hword⟩
  obtain rfl : d = c := by simpa [List.getLast?_append, hd] using hc
  have hmem : d ∈ w := by
    rw [← hspan]
    exact List.mem_append_left _ (List.mem_of_getLast? hd)
  refine ⟨Text.getLast?_spanEnd hd, ?_, ?_⟩
  · rintro rfl
    exact absurd (hw.alphanum _ hmem) (by decide)
  · rintro rfl
    exact absurd (hw.alphanum _ hmem) (by decide)

/-- A word other than that of the marker, after a separator, is no marker. -/
theorem EndsInWord.not_endsInMarker {s : List Char} (hs : EndsInWord s) : ¬ EndsInMarker s := by
  rintro ⟨before, m, heq, hm⟩
  obtain ⟨front, w, rfl, hw, hfront⟩ := hs
  obtain ⟨word, rfl, _, hletters, hupper⟩ := hm.eq_cons
  have hplain : ∀ d ∈ w, isSeparator d = false := fun d hd =>
    isSeparator_of_isAlphanum (hw.alphanum d hd)
  have hplain' : ∀ d ∈ word, isSeparator d = false := fun d hd =>
    isSeparator_of_isAlphanum (isAlphanum_iff.mpr (.inl (hletters d hd)))
  rcases List.eq_nil_or_concat front with rfl | ⟨init, c, hinit⟩
  · have hdash : '-' ∈ w := by
      rw [List.nil_append] at heq
      simp [heq]
    exact absurd (hw.alphanum _ hdash) (by decide)
  · rw [List.concat_eq_append] at hinit
    subst hinit
    have hc : isSeparator c = true := hfront c (by simp)
    rw [List.append_assoc, List.singleton_append] at heq
    obtain ⟨_, _, rfl⟩ := Text.last_unique heq hc (by decide) hplain hplain'
    exact hw.unmarked hupper

end BuildAlign.Version
