import BuildAlign.Proofs.Version.Core
import BuildAlign.Proofs.Version.OsgiForm

/-!
OSGi form is a normal form. The texts of this form are described without the writer, as numerals and
one qualifier between dots. A version with a core is written as such a text and no other version is,
and a text of the form is written as it stands when it is read again, although its qualifier may be
read as a fourth segment, a build number or a snapshot marker.
-/

namespace BuildAlign.Version

def IsOsgiChar (c : Char) : Prop :=
  c.isAlphanum = true ∨ c = '_' ∨ c = '-'

/-- The texts of OSGi form: up to three numerals between dots, or three of them and one qualifier
behind a further dot. -/
inductive OsgiForm : List Char → Prop
  | numeric {core : List (List Char)} (nonempty : core ≠ []) (short : core.length ≤ 3)
      (numerals : ∀ s ∈ core, Text.isNumeral s = true) : OsgiForm (['.'].intercalate core)
  | qualified {core : List (List Char)} {qualifier : List Char} (three : core.length = 3)
      (numerals : ∀ s ∈ core, Text.isNumeral s = true) (nonempty : qualifier ≠ [])
      (chars : ∀ c ∈ qualifier, IsOsgiChar c) :
      OsgiForm (['.'].intercalate core ++ '.' :: qualifier)

theorem joinSegments_eq_intercalate (core : List (List Char)) :
    joinSegments core = ['.'].intercalate core := by
  induction core with
  | nil => rfl
  | cons s later ih =>
    cases later with
    | nil => simp [joinSegments, List.intercalate]
    | cons t later =>
      rw [joinSegments_cons_cons, ih]
      simp [List.intercalate]

theorem isOsgiChar_osgiChar (c : Char) : IsOsgiChar (osgiChar c) :=
  osgiChar_cases c

theorem osgiChar_of_isOsgiChar {c : Char} (hc : IsOsgiChar c) : osgiChar c = c := by
  rcases hc with hc | rfl | rfl
  · exact osgiChar_of_isAlphanum hc
  · rfl
  · rfl

theorem isVersionChar_of_isOsgiChar {c : Char} (hc : IsOsgiChar c) : isVersionChar c = true := by
  rw [← osgiChar_of_isOsgiChar hc]
  exact isVersionChar_osgiChar c

/-! ## Writing gives texts of the form -/

/-- The form of a version whose written form is known behind the segments that are kept. -/
theorem osgiChars_of_kept {v : Version} {kept : List (List Char)} {rest : List Char}
    (hne : v.core ≠ []) (hkept : v.core.take 3 = kept)
    (hchars : v.chars = joinSegments kept ++ rest) :
    v.osgiChars =
      if dropSeparator rest = [] then joinSegments kept
      else joinSegments (kept ++ List.replicate (3 - kept.length) ['0']) ++
        '.' :: (dropSeparator rest).map osgiChar := by
  simp only [osgiChars, osgiOf, if_neg hne, hkept, hchars, List.drop_left, List.map_eq_nil_iff]

theorem chars_eq_kept (v : Version) :
    ∃ rest, v.chars = joinSegments (v.core.take 3) ++ rest := by
  by_cases hshort : v.core.length ≤ 3
  · rw [List.take_of_length_le hshort, chars_eq_tail]
    exact ⟨_, rfl⟩
  · have hkept : v.core.take 3 ≠ [] := List.ne_nil_of_length_pos (by simp; omega)
    have hmore : v.core.drop 3 ≠ [] := List.ne_nil_of_length_pos (by simp; omega)
    have hcore := joinSegments_append hkept hmore
    rw [List.take_append_drop] at hcore
    rw [chars_eq_tail, hcore, List.append_assoc]
    exact ⟨_, rfl⟩

/-- A version whose segments are numerals is written in OSGi form. -/
theorem osgiForm_osgiChars {v : Version} (hne : v.core ≠ [])
    (hcore : ∀ s ∈ v.core, Text.isNumeral s = true) : OsgiForm v.osgiChars := by
  obtain ⟨rest, hchars⟩ := v.chars_eq_kept
  have hkept : ∀ s ∈ v.core.take 3, Text.isNumeral s = true :=
    fun s hs => hcore s (List.mem_of_mem_take hs)
  have hlength : (v.core.take 3).length ≤ 3 := List.length_take_le 3 v.core
  rw [osgiChars_of_kept hne rfl hchars]
  split
  · rw [joinSegments_eq_intercalate]
    refine .numeric ?_ hlength hkept
    simpa using hne
  · rename_i hqualifier
    rw [joinSegments_eq_intercalate]
    refine .qualified ?_ ?_ (by simpa using hqualifier) ?_
    · rw [List.length_append, List.length_replicate]
      omega
    · intro s hs
      rcases List.mem_append.mp hs with hs | hs
      · exact hkept s hs
      · obtain rfl := List.eq_of_mem_replicate hs
        rfl
    · intro c hc
      obtain ⟨d, _, rfl⟩ := List.mem_map.mp hc
      exact isOsgiChar_osgiChar d

/-! ## Texts of the form are read with their segments -/

theorem OsgiForm.isVersionChar_of_mem {s : List Char} (h : OsgiForm s) {c : Char} (hc : c ∈ s) :
    isVersionChar c = true := by
  cases h with
  | numeric _ _ hcore =>
    rw [← joinSegments_eq_intercalate] at hc
    exact isVersionChar_of_mem_joinSegments hcore hc
  | qualified _ hcore _ hqualifier =>
    rw [← joinSegments_eq_intercalate, List.mem_append, List.mem_cons] at hc
    rcases hc with hc | rfl | hc
    · exact isVersionChar_of_mem_joinSegments hcore hc
    · decide
    · exact isVersionChar_of_isOsgiChar (hqualifier c hc)

/-- What is read of the core behind a dot starts a new segment. -/
theorem readSegments_dot (s : List Char) : (readSegments ('.' :: s)).1 = [] := by
  rw [readSegments, if_neg (by decide)]
  split <;> rfl

/-- The segments of the form are the first ones that are read, and what follows them is kept. -/
theorem OsgiForm.kept {s : List Char} (h : OsgiForm s) :
    ∃ kept rest, s = joinSegments kept ++ rest ∧ kept ≠ [] ∧ (ofChars s).core.take 3 = kept ∧
      (rest = [] ∨ kept.length = 3 ∧ ∃ qualifier, rest = '.' :: qualifier ∧ qualifier ≠ [] ∧
        ∀ c ∈ qualifier, IsOsgiChar c) := by
  have hread := core_ofChars_of_isVersionChar fun _ => h.isVersionChar_of_mem
  cases h with
  | @numeric core hne hshort hcore =>
    rw [← joinSegments_eq_intercalate] at hread ⊢
    have hend : EndsCore [] := trivial
    have hcut := splitCore_joinSegments hne hcore hend
    rw [List.append_nil] at hcut
    rw [hcut] at hread
    refine ⟨core, [], (List.append_nil _).symm, hne, ?_, .inl rfl⟩
    rw [hread, List.take_of_length_le hshort]
  | @qualified core qualifier hthree hcore hne hqualifier =>
    rw [← joinSegments_eq_intercalate] at hread ⊢
    have hsegments : core ≠ [] := List.ne_nil_of_length_pos (by omega)
    rw [splitCore_joinSegments_append hsegments hcore (readSegments_dot qualifier)] at hread
    refine ⟨core, '.' :: qualifier, rfl, hsegments, ?_, .inr ⟨hthree, qualifier, rfl, hne, ?_⟩⟩
    · rw [hread, ← hthree, List.take_left]
    · exact hqualifier

theorem OsgiForm.core_ne_nil {s : List Char} (h : OsgiForm s) : (ofChars s).core ≠ [] := by
  obtain ⟨kept, _, _, hne, hkept, _⟩ := h.kept
  rintro hnil
  rw [hnil] at hkept
  exact hne hkept.symm

/-- A text of the form is written as it stands. -/
theorem OsgiForm.osgiChars_ofChars {s : List Char} (h : OsgiForm s) :
    (ofChars s).osgiChars = s := by
  obtain ⟨kept, rest, hs, _, hkept, hrest⟩ := h.kept
  have hchars : (ofChars s).chars = joinSegments kept ++ rest := by rw [chars_ofChars, hs]
  rw [osgiChars_of_kept h.core_ne_nil hkept hchars]
  rcases hrest with rfl | ⟨hthree, qualifier, rfl, hne, hqualifier⟩
  · have hdrop : dropSeparator [] = [] := rfl
    rw [if_pos hdrop, hs, List.append_nil]
  · have hdrop : dropSeparator ('.' :: qualifier) = qualifier := rfl
    have hsame : qualifier.map osgiChar = qualifier := by
      rw [List.map_congr_left fun c hc => osgiChar_of_isOsgiChar (hqualifier c hc), List.map_id']
    rw [hdrop, if_neg hne, hsame, hthree, Nat.sub_self, List.replicate_zero, List.append_nil, hs]

/-- OSGi rendering is a normal form: rendering what was rendered changes nothing, for every text,
and the rendered text is of OSGi form exactly if the version has a numeric core. -/
theorem osgi_normal_form (raw : String) :
    (parse (parse raw).renderOsgi).renderOsgi = (parse raw).renderOsgi ∧
      ((parse raw).core ≠ [] ↔ OsgiForm (parse raw).renderOsgi.toList) := by
  by_cases hcore : (parse raw).core = []
  · -- a version without a core is written as it was read
    have hsame : (parse raw).renderOsgi = raw := by
      rw [renderOsgi, osgiChars, if_pos hcore]
      exact render_parse raw
    rw [hsame, hsame]
    refine ⟨rfl, fun hne => absurd hcore hne, fun hform => ?_⟩
    exact absurd hcore hform.core_ne_nil
  · have hform : OsgiForm (parse raw).renderOsgi.toList := by
      rw [renderOsgi, String.toList_ofList]
      exact osgiForm_osgiChars hcore fun _ => isNumeral_of_mem_core
    refine ⟨?_, fun _ => hform, fun _ => hcore⟩
    calc (parse (parse raw).renderOsgi).renderOsgi
        = String.ofList (parse raw).renderOsgi.toList :=
          congrArg String.ofList hform.osgiChars_ofChars
      _ = (parse raw).renderOsgi := String.ofList_toList

/-- The fifth segment, the plus and the dot in front of the number go into the qualifier, whose
digits are read as a fourth segment the next time. -/
example : (parse "1.02.3.4.5-x+y.7-SNAPSHOT").renderOsgi = "1.02.3.4_5-x_y_7-SNAPSHOT" := by
  decide +kernel

end BuildAlign.Version
