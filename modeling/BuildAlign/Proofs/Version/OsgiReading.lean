import BuildAlign.Proofs.Version.Core
import BuildAlign.Proofs.Version.OsgiForm

/-!
Reading OSGi forms. The OSGi form of a version with a build number is not the written form of that
version, and reading it gives back the base and the build number only for some versions.
-/

namespace BuildAlign.Version

/-- The versions whose OSGi form is still read as a version of the same base with the same build
number: all core segments survive, the number is attached with a dash, and the qualifier is not read
as the fourth segment of a filled up core. -/
structure OsgiReadable (v : Version) : Prop where
  core_survives : v.core.length ≤ 4
  build_dash : ∀ b ∈ v.build, b.separator = '-'
  qualifier_apart : v.core.length ≤ 3 → ∀ c, v.qualifier.head? = some c → c.isDigit = false

theorem osgiReadable_iff {v : Version} :
    v.OsgiReadable ↔ v.core.length ≤ 4 ∧ (∀ b ∈ v.build, b.separator = '-') ∧
      (v.core.length ≤ 3 → ∀ c, v.qualifier.head? = some c → c.isDigit = false) :=
  ⟨fun h => ⟨h.core_survives, h.build_dash, h.qualifier_apart⟩, fun h => ⟨h.1, h.2.1, h.2.2⟩⟩

/-! ## What an OSGi form is read as -/

/-- Parts in front of the build number and the marker of a tidy version are read as they are, as
long as they meet where the cuts fall. -/
theorem legible_with {v : Version} (hv : v.Tidy) {b : Build} (hbuild : v.build = some b)
    (core : List (List Char)) (separator : Option Char) (qualifier : List Char)
    (hne : core ≠ []) (hcore : ∀ s ∈ core, Text.isNumeral s = true)
    (hchars : ∀ c ∈ separator.toList ++ qualifier, isVersionChar c = true)
    (hsplit : splitSeparator (separator.toList ++ qualifier) = (separator, qualifier))
    (hends : EndsCore (separator.toList ++ qualifier ++ b.chars)) :
    Legible { v with core, separator, qualifier } where
  core_ne_nil := hne
  core_numerals := hcore
  tail_chars := hchars
  tail_splits := hsplit
  core_ends := by simpa [afterCore, tail, hbuild] using hends
  build_legible := hv.build_legible
  unnumbered := fun hnone => absurd (hbuild.symm.trans hnone) nofun
  unmarked := fun hnone => absurd (hbuild.symm.trans hnone) nofun
  snapshot_marker := hv.snapshot_marker

/-- A text in OSGi characters that does not start with a digit does not continue a core. -/
theorem endsCore_map_osgiChar {s rest : List Char}
    (hs : ∀ c, s.head? = some c → c.isDigit = false) (hrest : EndsCore rest) :
    EndsCore (s.map osgiChar ++ rest) := by
  cases s with
  | nil => exact hrest
  | cons c s =>
    refine ⟨?_, fun hdot => absurd hdot (osgiChar_ne_dot c)⟩
    rcases osgiChar_cases c with hc | hc | hc
    · unfold osgiChar at hc ⊢
      split
      · exact hs c rfl
      · rfl
    · rw [hc]; rfl
    · rw [hc]; rfl

theorem endsCore_build_chars {b : Build} (hb : b.separator = '-') : EndsCore b.chars := by
  rw [Build.chars, hb]
  exact ⟨rfl, fun hdot => absurd hdot (by decide)⟩

theorem splitSeparator_map_osgiChar {s : List Char} (hs : Segmented s) :
    splitSeparator (s.map osgiChar) = (none, s.map osgiChar) :=
  splitSeparator_of_head fun _ hc => isSeparator_of_isAlphanum (hs.map_osgiChar.head_isAlphanum hc)

/-- The form of a version with at most three segments is read with its qualifier after three. -/
theorem ofChars_osgi_short {v : Version} (hv : v.Tidy) (hq : Segmented v.qualifier) {b : Build}
    (hbuild : v.build = some b) (hdash : b.separator = '-') (hshort : v.core.length ≤ 3)
    (hapart : ∀ c, v.qualifier.head? = some c → c.isDigit = false) :
    ofChars v.osgiChars =
      written { v with
        core := v.osgiCore, separator := some '.', qualifier := v.qualifier.map osgiChar } := by
  have hlegible := legible_with hv hbuild v.osgiCore (some '.') (v.qualifier.map osgiChar)
    (osgiCore_ne_nil hv.core_ne_nil)
    (fun _ hs => isNumeral_of_mem_osgiCore hv.core_numerals hs)
    (by
      intro c hc
      rcases List.mem_cons.mp hc with rfl | hc
      · decide
      · obtain ⟨d, _, rfl⟩ := List.mem_map.mp hc
        exact isVersionChar_osgiChar d)
    (splitSeparator_of_isSeparator (by decide) _)
    (by
      obtain ⟨c, q, hqualifier⟩ := List.exists_cons_of_ne_nil hq.ne_nil
      have hc : c.isAlphanum = true := hq.head_isAlphanum (by simp [hqualifier])
      refine ⟨rfl, ?_⟩
      intro _ d hd
      obtain rfl : c = d := by
        simpa [hqualifier, osgiChar_of_isAlphanum hc] using hd
      exact hapart c (by simp [hqualifier]))
  rw [← hlegible.ofChars_chars, osgiChars_eq hv hq.ne_nil, osgiLabel, if_pos hshort,
    List.map_append, map_osgiChar_ending hv.snapshot_marker (by simpa [hbuild] using hdash)]
  simp [chars_eq_tail, tail, ending]

/-- The form of a version with four segments keeps them all. -/
theorem ofChars_osgi_four {v : Version} (hv : v.Tidy) (hq : Segmented v.qualifier) {b : Build}
    (hbuild : v.build = some b) (hdash : b.separator = '-') (hfour : v.core.length = 4) :
    ofChars v.osgiChars =
      written { v with
        separator := v.separator.map osgiChar, qualifier := v.qualifier.map osgiChar } := by
  have htail : v.tail.map osgiChar =
      (v.separator.map osgiChar).toList ++ v.qualifier.map osgiChar := by
    cases hseparator : v.separator <;> simp [tail, hseparator]
  have hlegible := legible_with hv hbuild v.core (v.separator.map osgiChar)
    (v.qualifier.map osgiChar) hv.core_ne_nil hv.core_numerals
    (by
      rw [← htail]
      intro c hc
      obtain ⟨d, _, rfl⟩ := List.mem_map.mp hc
      exact isVersionChar_osgiChar d)
    (by
      cases hseparator : v.separator with
      | none => exact splitSeparator_map_osgiChar hq
      | some c =>
        have hc : isSeparator c = true := hv.separator_separates c hseparator
        exact splitSeparator_of_isSeparator (isSeparator_osgiChar hc) _)
    (by
      rw [← htail]
      apply endsCore_map_osgiChar _ (endsCore_build_chars hdash)
      intro c hc
      cases hseparator : v.separator with
      | none =>
        exact hv.boundary (.inl hseparator) c (by simpa [tail, hseparator] using hc)
      | some d =>
        obtain rfl : d = c := by simpa [tail, hseparator] using hc
        have hd : isSeparator d = true := hv.separator_separates d hseparator
        rcases isSeparator_iff.mp hd with rfl | rfl | rfl <;> rfl)
  have hcore : joinSegments v.osgiCore ++ '.' :: joinSegments (v.core.drop 3) =
      joinSegments v.core := by
    have hkept : v.core.take 3 ≠ [] := List.ne_nil_of_length_pos (by simp; omega)
    have hmore : v.core.drop 3 ≠ [] := List.ne_nil_of_length_pos (by simp; omega)
    rw [osgiCore, hfour, ← joinSegments_append (by simpa using hkept) hmore]
    simp
  have hlast : (joinSegments (v.core.drop 3)).map osgiChar = joinSegments (v.core.drop 3) := by
    obtain ⟨s, hs⟩ := List.length_eq_one_iff.mp (by simp [hfour] : (v.core.drop 3).length = 1)
    have hmem : s ∈ v.core := List.mem_of_mem_drop (by rw [hs]; exact List.mem_singleton_self s)
    rw [hs]
    exact map_osgiChar_of_digits (isNumeral_iff.mp (hv.core_numerals s hmem)).2
  rw [← hlegible.ofChars_chars, osgiChars_eq hv hq.ne_nil, osgiLabel, if_neg (by omega),
    List.map_append, List.map_append, hlast, htail,
    map_osgiChar_ending hv.snapshot_marker (by simpa [hbuild] using hdash), chars_eq_tail, ← hcore]
  simp [tail, ending]

/-- The form of a version with more than four segments keeps four; the others are read as the start
of the qualifier. -/
theorem ofChars_osgi_long {v : Version} (hv : v.Tidy) (hq : Segmented v.qualifier) {b : Build}
    (hbuild : v.build = some b) (hdash : b.separator = '-') (hlong : 4 < v.core.length) :
    ofChars v.osgiChars =
      written { v with
        core := v.core.take 4
        separator := some '_'
        qualifier := (joinSegments (v.core.drop 4) ++ v.tail).map osgiChar } := by
  have hlegible := legible_with hv hbuild (v.core.take 4) (some '_')
    ((joinSegments (v.core.drop 4) ++ v.tail).map osgiChar)
    (List.ne_nil_of_length_pos (by simp; omega))
    (fun s hs => hv.core_numerals s (List.mem_of_mem_take hs))
    (by
      intro c hc
      rcases List.mem_cons.mp hc with rfl | hc
      · decide
      · obtain ⟨d, _, rfl⟩ := List.mem_map.mp hc
        exact isVersionChar_osgiChar d)
    (splitSeparator_of_isSeparator (by decide) _)
    ⟨rfl, fun hdot => absurd hdot (by decide)⟩
  obtain ⟨fourth, later, hfourth⟩ := List.exists_cons_of_ne_nil
    (List.ne_nil_of_length_pos (by simp; omega) : v.core.drop 3 ≠ [])
  have hdrop : v.core.drop 4 = later := by
    have htail := congrArg List.tail hfourth
    simpa using htail
  have htake : v.core.take 4 = v.core.take 3 ++ [fourth] := by
    have hget : v.core[3]? = some fourth := by
      rw [← List.head?_drop, hfourth, List.head?_cons]
    rw [List.take_add_one, hget, Option.toList_some]
  have hlater : later ≠ [] := by
    rw [← hdrop]
    exact List.ne_nil_of_length_pos (by simp; omega)
  have hdigits : fourth.map osgiChar = fourth := by
    have hmem : fourth ∈ v.core := List.mem_of_mem_drop (i := 3) (by simp [hfourth])
    exact map_osgiChar_of_digits (isNumeral_iff.mp (hv.core_numerals fourth hmem)).2
  have hkept : v.core.take 3 ≠ [] := List.ne_nil_of_length_pos (by simp; omega)
  have hmore : joinSegments (v.core.drop 3) = fourth ++ '.' :: joinSegments later := by
    rw [hfourth, ← List.singleton_append, joinSegments_append (by simp) hlater]
    rfl
  have hzeros : 3 - v.core.length = 0 := by omega
  have hcore : joinSegments (v.core.take 4) = joinSegments v.osgiCore ++ '.' :: fourth := by
    rw [htake, joinSegments_append hkept (List.cons_ne_nil fourth []), osgiCore, hzeros,
      List.replicate_zero, List.append_nil]
    rfl
  rw [← hlegible.ofChars_chars, osgiChars_eq hv hq.ne_nil, osgiLabel, if_neg (by omega),
    List.map_append, map_osgiChar_ending hv.snapshot_marker (by simpa [hbuild] using hdash), hmore,
    chars_eq_tail { v with core := v.core.take 4, separator := _, qualifier := _ }, hcore, hdrop]
  simp [tail, ending, hdigits]
  rfl

/-- A qualifier that starts with digits behind at most three segments is read as one more segment.
-/
theorem ofChars_osgi_digits {v : Version} (hv : v.Tidy) (hq : Segmented v.qualifier) {b : Build}
    (hbuild : v.build = some b) (hdash : b.separator = '-') (hshort : v.core.length ≤ 3)
    {digits later : List Char} (hdigits : Text.isNumeral digits = true)
    (hqualifier : v.qualifier = digits ++ later)
    (hlater : ∀ c, later.head? = some c → c.isDigit = false) :
    ofChars v.osgiChars =
      written { v with
        core := v.osgiCore ++ [digits]
        separator := (splitSeparator (later.map osgiChar)).1
        qualifier := (splitSeparator (later.map osgiChar)).2 } := by
  have happend := splitSeparator_append (later.map osgiChar)
  have hlegible := legible_with hv hbuild (v.osgiCore ++ [digits])
    (splitSeparator (later.map osgiChar)).1 (splitSeparator (later.map osgiChar)).2 (by simp)
    (by
      intro s hs
      rcases List.mem_append.mp hs with hs | hs
      · exact isNumeral_of_mem_osgiCore hv.core_numerals hs
      · rwa [List.mem_singleton.mp hs])
    (by
      rw [happend]
      intro c hc
      obtain ⟨d, _, rfl⟩ := List.mem_map.mp hc
      exact isVersionChar_osgiChar d)
    (by rw [happend])
    (by
      rw [happend]
      exact endsCore_map_osgiChar hlater (endsCore_build_chars hdash))
  have hsame : digits.map osgiChar = digits :=
    map_osgiChar_of_digits (isNumeral_iff.mp hdigits).2
  rw [← hlegible.ofChars_chars, osgiChars_eq hv hq.ne_nil, osgiLabel, if_pos hshort, hqualifier,
    List.map_append, List.map_append, hsame,
    map_osgiChar_ending hv.snapshot_marker (by simpa [hbuild] using hdash), chars_eq_tail,
    joinSegments_append (osgiCore_ne_nil hv.core_ne_nil) (List.cons_ne_nil digits [])]
  simp only [tail, ending, joinSegments, happend, List.append_assoc, List.cons_append]

/-- Digits after an underscore are no build number, whatever stands before it. -/
theorem buildNumber_of_underscore {front digits : List Char} {marker : Option (List Char)}
    (hdigits : Text.isNumeral digits = true) (hmarker : ∀ m ∈ marker, IsMarker m) :
    (ofChars (front ++ '_' :: digits ++ marker.getD [])).buildNumber = none := by
  obtain ⟨hne, hall⟩ := isNumeral_iff.mp hdigits
  have hsnapshot : splitSnapshot (front ++ '_' :: digits ++ marker.getD []) =
      (front ++ '_' :: digits, marker) := by
    cases marker with
    | some m => exact splitSnapshot_of_isMarker (hmarker m rfl)
    | none =>
      rw [Option.getD_none, List.append_nil]
      apply splitSnapshot_of_not_endsInMarker
      have hsplit : front ++ '_' :: digits =
          (front ++ '_' :: digits.dropLast) ++ [digits.getLast hne] := by
        simp [List.dropLast_concat_getLast hne]
      rw [hsplit]
      exact not_endsInMarker_of_digit (hall _ (List.getLast_mem hne))
  -- the underscore is not in the core, so the rest still ends with it and the digits
  obtain ⟨before, hrest⟩ : ∃ before,
      (splitCore (front ++ '_' :: digits)).2 = before ++ '_' :: digits := by
    have hcut := splitCore_append (front ++ '_' :: digits)
    rcases List.append_eq_append_iff.mp hcut with ⟨more, _, hrest⟩ | ⟨more, hcore, hrest⟩
    · exact ⟨more, hrest⟩
    · cases more with
      | nil => exact ⟨[], hrest.symm⟩
      | cons c more =>
        obtain ⟨rfl, _⟩ := List.cons.inj hrest
        rcases mem_splitCore (c := '_') (by rw [hcore]; simp) with hdigit | hdot
        · exact absurd hdigit (by decide)
        · exact absurd hdot (by decide)
  have hbuild : splitBuild (before ++ '_' :: digits) = (before ++ '_' :: digits, none) := by
    have hglued := splitBuild_of_glued (before ++ ['_']) hall (by
      intro c hc
      obtain rfl : '_' = c := by simpa using hc
      exact ⟨rfl, by decide, by decide⟩)
    simpa using hglued
  unfold ofChars
  split
  · simp only [hsnapshot, hrest, hbuild]
    rfl
  · rfl

/-- A build number that is attached with a dot is lost in the OSGi form. -/
theorem buildNumber_osgi_dot {v : Version} (hv : v.Tidy) (hq : v.qualifier ≠ []) {b : Build}
    (hbuild : v.build = some b) (hdot : b.separator = '.') :
    (ofChars v.osgiChars).buildNumber = none := by
  have hdigits : Text.isNumeral b.digits = true :=
    isNumeral_iff.mpr ⟨b.digits_ne_nil, fun _ => Build.isDigit_of_mem_digits⟩
  have hnumber : b.chars.map osgiChar = '_' :: b.digits := by
    rw [map_osgiChar_build, hdot]
    rfl
  have hform : v.osgiChars =
      (joinSegments v.osgiCore ++ '.' :: v.osgiLabel.map osgiChar) ++ '_' :: b.digits ++
        v.snapshot.getD [] := by
    rw [osgiChars_eq hv hq, List.map_append, ending, List.map_append,
      map_osgiChar_snapshot hv.snapshot_marker, hbuild, Option.map_some, Option.getD_some, hnumber]
    simp
  rw [hform]
  exact buildNumber_of_underscore hdigits hv.snapshot_marker

/-! ## Which OSGi forms are read back -/

/-- The label of a base is as long as the qualifier. -/
theorem base_ne_of_length {v w : Version} (hlength : w.qualifier.length ≠ v.qualifier.length) :
    w.base ≠ v.base := by
  intro hbase
  have hlabel : w.qualifier.map labelChar = v.qualifier.map labelChar := congrArg Base.label hbase
  exact hlength (by simpa using congrArg List.length hlabel)

theorem length_splitSeparator_le (s : List Char) : (splitSeparator s).2.length ≤ s.length := by
  have hlength := congrArg List.length (splitSeparator_append s)
  rw [List.length_append] at hlength
  omega

theorem base_osgi_short {v : Version} (hne : v.core ≠ []) (hq : Segmented v.qualifier)
    (hshort : v.core.length ≤ 3) (separator : Option Char) (build : Option Build) :
    ({ v with core := v.osgiCore, separator, qualifier := v.qualifier.map osgiChar, build } :
      Version).base = v.base := by
  have hzero : bareSegment ['0'] = ['0'] := rfl
  have hcore : dropZeros (v.osgiCore.map bareSegment) = dropZeros (v.core.map bareSegment) := by
    rw [osgiCore, List.take_of_length_le hshort, List.map_append, List.map_replicate, hzero,
      dropZeros_append_zeros (by simpa using hne)]
  simp only [base, map_labelChar_osgiChar hq, hcore]

/-- The core segments behind the fourth one make the qualifier longer. -/
theorem base_osgi_long_ne {v : Version} (hcore : ∀ s ∈ v.core, Text.isNumeral s = true)
    (hlong : 4 < v.core.length) :
    ({ v with
      core := v.core.take 4
      separator := some '_'
      qualifier := (joinSegments (v.core.drop 4) ++ v.tail).map osgiChar } : Version).base ≠
      v.base := by
  apply base_ne_of_length
  obtain ⟨s, later, hlater⟩ := List.exists_cons_of_ne_nil
    (List.ne_nil_of_length_pos (by simp; omega) : v.core.drop 4 ≠ [])
  have hs : s ≠ [] :=
    (isNumeral_iff.mp (hcore s (List.mem_of_mem_drop (i := 4) (by simp [hlater])))).1
  have hpos : 0 < (joinSegments (v.core.drop 4)).length := by
    rw [hlater]
    cases later with
    | nil => exact List.length_pos_iff.mpr hs
    | cons t later =>
      rw [joinSegments_cons_cons, List.length_append, List.length_cons]
      omega
  simp only [tail, List.length_map, List.length_append]
  omega

/-- The digits at the start of the qualifier are missing in the one that is read. -/
theorem base_osgi_digits_ne {v : Version} {digits later : List Char}
    (hdigits : Text.isNumeral digits = true) (hqualifier : v.qualifier = digits ++ later) :
    ({ v with
      core := v.osgiCore ++ [digits]
      separator := (splitSeparator (later.map osgiChar)).1
      qualifier := (splitSeparator (later.map osgiChar)).2 } : Version).base ≠ v.base := by
  apply base_ne_of_length
  have hle := length_splitSeparator_le (later.map osgiChar)
  have hpos : 0 < digits.length := List.length_pos_iff.mpr (isNumeral_iff.mp hdigits).1
  rw [List.length_map] at hle
  simp only [hqualifier, List.length_append]
  omega

/-- A number that is attached with a dash is always read back, and the base is in exactly those
versions whose segments and label stay apart. -/
theorem ofChars_osgi_dash {v : Version} (hv : v.Tidy) (hq : Segmented v.qualifier) {b : Build}
    (hbuild : v.build = some b) (hdash : b.separator = '-') :
    (ofChars v.osgiChars).buildNumber = v.buildNumber ∧
      ((ofChars v.osgiChars).base = v.base ↔ v.OsgiReadable) := by
  have hdashes : ∀ b' ∈ v.build, b'.separator = '-' := by
    intro b' hb'
    obtain rfl : b = b' := Option.some.inj (hbuild.symm.trans hb')
    exact hdash
  rcases Nat.lt_trichotomy v.core.length 4 with hshort | hfour | hlong
  · have hshort : v.core.length ≤ 3 := Nat.le_of_lt_succ hshort
    obtain ⟨c, q, hqualifier⟩ := List.exists_cons_of_ne_nil hq.ne_nil
    cases hdigit : c.isDigit with
    | false =>
      have hapart : ∀ d, v.qualifier.head? = some d → d.isDigit = false := by
        intro d hd
        obtain rfl : c = d := by simpa [hqualifier] using hd
        exact hdigit
      rw [ofChars_osgi_short hv hq hbuild hdash hshort hapart, base_written, buildNumber_written,
        base_osgi_short hv.core_ne_nil hq hshort]
      exact ⟨rfl, fun _ => ⟨by omega, hdashes, fun _ => hapart⟩, fun _ => rfl⟩
    | true =>
      have hdigits : Text.isNumeral (v.qualifier.takeWhile Char.isDigit) = true := by
        rw [isNumeral_iff]
        refine ⟨by simp [hqualifier, hdigit], fun d hd => ?_⟩
        exact List.all_eq_true.mp List.all_takeWhile d hd
      have hlater : ∀ d, (v.qualifier.dropWhile Char.isDigit).head? = some d →
          d.isDigit = false := by
        intro d hd
        simpa [hd] using List.head?_dropWhile_not Char.isDigit v.qualifier
      have hsplit := (List.takeWhile_append_dropWhile (p := Char.isDigit) (l := v.qualifier)).symm
      rw [ofChars_osgi_digits hv hq hbuild hdash hshort hdigits hsplit hlater, base_written,
        buildNumber_written]
      refine ⟨rfl, fun hbase => absurd hbase (base_osgi_digits_ne hdigits hsplit), fun hread => ?_⟩
      rw [hread.qualifier_apart hshort c (by simp [hqualifier])] at hdigit
      exact absurd hdigit Bool.false_ne_true
  · rw [ofChars_osgi_four hv hq hbuild hdash hfour, base_written, buildNumber_written]
    refine ⟨rfl, fun _ => ⟨Nat.le_of_eq hfour, hdashes, fun hshort => ?_⟩, fun _ => ?_⟩
    · omega
    · simp only [base, map_labelChar_osgiChar hq]
  · rw [ofChars_osgi_long hv hq hbuild hdash hlong, base_written, buildNumber_written]
    refine ⟨rfl, fun hbase => absurd hbase (base_osgi_long_ne hv.core_numerals hlong), ?_⟩
    exact fun hread => absurd hread.core_survives (by omega)

theorem osgi_reads_back {v : Version} (hv : v.Tidy) (hq : Segmented v.qualifier) {b : Build}
    (hbuild : v.build = some b) (hread : v.OsgiReadable) :
    (ofChars v.osgiChars).base = v.base ∧ (ofChars v.osgiChars).buildNumber = v.buildNumber := by
  obtain ⟨hnumber, hbase⟩ := ofChars_osgi_dash hv hq hbuild (hread.build_dash b hbuild)
  exact ⟨hbase.mpr hread, hnumber⟩

theorem buildNumber_osgi {v : Version} (hv : v.Tidy) (hq : Segmented v.qualifier) {b : Build}
    (hbuild : v.build = some b) :
    (ofChars v.osgiChars).buildNumber = if b.separator = '-' then some b.value else none := by
  split
  · rename_i hdash
    rw [(ofChars_osgi_dash hv hq hbuild hdash).1, buildNumber, hbuild, Option.map_some]
  · rename_i hdash
    have hdot : b.separator = '.' := (hv.build_legible b hbuild).separator.resolve_right hdash
    exact buildNumber_osgi_dot hv hq.ne_nil hbuild hdot

/-- The OSGi form of any other version is read as one of another base, or without a number. -/
theorem osgi_is_misread {v : Version} (hv : v.Tidy) (hq : Segmented v.qualifier) {b : Build}
    (hbuild : v.build = some b) (hread : ¬ v.OsgiReadable) :
    (ofChars v.osgiChars).base ≠ v.base ∨ (ofChars v.osgiChars).buildNumber = none := by
  rcases (hv.build_legible b hbuild).separator with hdot | hdash
  · exact .inr (buildNumber_osgi_dot hv hq.ne_nil hbuild hdot)
  · exact .inl fun hbase => hread ((ofChars_osgi_dash hv hq hbuild hdash).2.mp hbase)

end BuildAlign.Version
