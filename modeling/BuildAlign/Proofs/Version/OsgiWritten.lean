import BuildAlign.Proofs.Version.OsgiNormal
import BuildAlign.Proofs.Version.Writable

/-!
Writing OSGi forms. An OSGi form is read again with a build number only if the version that it was
written from has the same one: a dot in front of trailing digits belongs to the segments of the
form, so the number stands behind a dash of the qualifier, and a dash is written for a dash alone.
Hence no form that could be written is too wide to be written again.
-/

namespace BuildAlign

namespace Version

/-! ## Numbers behind a dash -/

/-- A core has no dash, so digits behind one are read as a build number. -/
theorem build_of_dash {s front digits : List Char} {n : Nat}
    (hs : ∀ c ∈ s, isVersionChar c = true)
    (hbody : (splitSnapshot s).1 = front ++ '-' :: digits) (hn : Text.word? digits = some n) :
    (ofChars s).build = some { separator := '-', value := n, width := digits.length } := by
  have hcore := splitCore_append (splitSnapshot s).1
  rw [hbody] at hcore
  have hdash : '-' ∉ joinSegments (splitCore (front ++ '-' :: digits)).1 := by
    intro hmem
    have hchar := mem_splitCore hmem
    simp at hchar
  obtain ⟨later, -, hrest⟩ := Text.append_eq_of_not_mem hcore hdash
  obtain ⟨hne, hdigits, hfits, rfl⟩ := Text.word?_eq_some_iff.mp hn
  have hsplit := splitBuild_chars
    (b := { separator := '-', value := Text.numeral digits, width := digits.length })
    { separator := .inr rfl, fits := hfits } later
  have hpadded := Text.padded_numeral hne hdigits
  simp only [Build.chars, Build.written, Build.digits, hpadded] at hsplit
  rw [ofChars, if_pos (List.all_eq_true.mpr hs)]
  simp [hbody, hrest, hsplit]

/-! ## The OSGi form of a number -/

theorem osgiChar_eq (c : Char) : osgiChar c = c ∨ osgiChar c = '_' := by
  unfold osgiChar
  split <;> simp

/-- Nothing but an underscore is written for another character. -/
theorem eq_of_map_osgiChar {s t : List Char} (h : s.map osgiChar = t) (ht : '_' ∉ t) : s = t := by
  induction s generalizing t with
  | nil => simpa using h
  | cons c s ih =>
    subst h
    simp only [List.map_cons, List.mem_cons, not_or] at ht
    rcases osgiChar_eq c with hsame | hunderscore
    · rw [List.map_cons, hsame, ← ih rfl ht.2]
    · exact absurd hunderscore.symm ht.1

theorem dash_not_mem_core {core : List (List Char)}
    (hcore : ∀ segment ∈ core, Text.isNumeral segment = true) : '-' ∉ joinSegments core := by
  intro hmem
  rcases mem_joinSegments hmem with hdot | ⟨segment, hsegment, hdigit⟩
  · simp at hdot
  · exact absurd ((isNumeral_iff.mp (hcore segment hsegment)).2 '-' hdigit) (by decide)

/-- A body that is one core and nothing else has no build number. -/
theorem build_of_core {s : List Char} {core : List (List Char)} (hne : core ≠ [])
    (hcore : ∀ segment ∈ core, Text.isNumeral segment = true)
    (hbody : (splitSnapshot s).1 = joinSegments core) : (ofChars s).build = none := by
  have hend : EndsCore [] := trivial
  have hcut := splitCore_joinSegments hne hcore hend
  rw [List.append_nil] at hcut
  unfold ofChars
  split
  · simp [hbody, hcut, splitBuild, Text.spanEnd]
  · rfl

section Qualified

variable {core : List (List Char)} {qualifier : List Char}

/-- The marker of a form with a qualifier is the end of the qualifier. -/
theorem splitSnapshot_qualified (hcore : ∀ segment ∈ core, Text.isNumeral segment = true) :
    ∃ front, (splitSnapshot (joinSegments core ++ '.' :: qualifier)).1 =
        joinSegments core ++ '.' :: front ∧
      qualifier = front ++
        (splitSnapshot (joinSegments core ++ '.' :: qualifier)).2.getD [] := by
  have hback := splitSnapshot_append (joinSegments core ++ '.' :: qualifier)
  cases hmarker : (splitSnapshot (joinSegments core ++ '.' :: qualifier)).2 with
  | none =>
    rw [hmarker, Option.getD_none, List.append_nil] at hback
    exact ⟨qualifier, hback, by simp⟩
  | some m =>
    obtain ⟨word, rfl, -⟩ := (isMarker_splitSnapshot hmarker).eq_cons
    rw [hmarker, Option.getD_some] at hback
    have hdash : '-' ∉ joinSegments core ++ ['.'] := by simp [dash_not_mem_core hcore]
    have hsplit : (joinSegments core ++ ['.']) ++ qualifier =
        (splitSnapshot (joinSegments core ++ '.' :: qualifier)).1 ++ '-' :: word := by
      simpa using hback.symm
    obtain ⟨front, hfront, hqualifier⟩ := Text.append_eq_of_not_mem hsplit hdash
    exact ⟨front, by simpa using hfront, hqualifier⟩

/-- A build number of a form stands behind a dash of the qualifier. Behind a dot it would be a
segment. -/
theorem number_of_qualified (hne : core ≠ [])
    (hcore : ∀ segment ∈ core, Text.isNumeral segment = true) (hqualifier : '.' ∉ qualifier)
    {b : Build} (hb : (ofChars (joinSegments core ++ '.' :: qualifier)).build = some b) :
    Text.word? b.digits = some b.value ∧ b.width = b.digits.length ∧
      ∃ (front : List Char) (marker : Option (List Char)),
        qualifier = front ++ ('-' :: b.digits ++ marker.getD []) ∧ ∀ m ∈ marker, IsMarker m := by
  have hnumber := endsInNumber_of_build hb
  obtain ⟨before, hback⟩ := hnumber.body
  obtain ⟨front, hbody, hmarker⟩ := splitSnapshot_qualified hcore
  rw [hbody, Build.chars] at hback
  refine ⟨hnumber.word, hnumber.width, ?_⟩
  rcases hnumber.separator with hdot | hdash
  · -- the dot is the last one of the body, which is then one core
    exfalso
    have hdigits : '.' ∉ b.digits := fun hmem =>
      absurd (Build.isDigit_of_mem_digits hmem) (by decide)
    have hfront : '.' ∉ front := fun hmem => hqualifier (by rw [hmarker]; simp [hmem])
    rw [hdot] at hback
    obtain ⟨-, -, rfl⟩ := Text.last_unique (p := fun c => c == '.') hback rfl rfl
      (fun d hd => beq_eq_false_iff_ne.mpr (ne_of_mem_of_not_mem hd hfront))
      (fun d hd => beq_eq_false_iff_ne.mpr (ne_of_mem_of_not_mem hd hdigits))
    have hlast : Text.isNumeral b.digits = true :=
      isNumeral_iff.mpr ⟨b.digits_ne_nil, fun _ => Build.isDigit_of_mem_digits⟩
    have hall : ∀ segment ∈ core ++ [b.digits], Text.isNumeral segment = true := by
      simpa [or_imp, forall_and, hlast] using hcore
    have hjoin : joinSegments (core ++ [b.digits]) = joinSegments core ++ '.' :: b.digits :=
      joinSegments_append hne (List.cons_ne_nil b.digits [])
    rw [build_of_core (by simp) hall (hbody.trans hjoin.symm)] at hb
    cases hb
  · rw [hdash] at hback
    have hfirst : '-' ∉ joinSegments core ++ ['.'] := by simp [dash_not_mem_core hcore]
    have hsplit : (joinSegments core ++ ['.']) ++ front = before ++ '-' :: b.digits := by
      simpa using hback
    obtain ⟨later, -, rfl⟩ := Text.append_eq_of_not_mem hsplit hfirst
    refine ⟨later, _, by simpa using hmarker, ?_⟩
    intro m hm
    exact isMarker_splitSnapshot hm

end Qualified

/-! ## The number that an OSGi form was written from -/

theorem isVersionChar_of_core_ne_nil {s : List Char} (hcore : (ofChars s).core ≠ []) {c : Char}
    (hc : c ∈ s) : isVersionChar c = true := by
  unfold ofChars at hcore
  split at hcore
  · rename_i hall
    exact List.all_eq_true.mp hall c hc
  · exact absurd rfl hcore

theorem dropSeparator_suffix (s : List Char) : dropSeparator s <:+ s := by
  cases s with
  | nil => exact List.suffix_rfl
  | cons c s =>
    rw [dropSeparator]
    split
    · exact List.suffix_cons c s
    · exact List.suffix_rfl

/-- Digits that end a text, up to a marker, are the end of its body. -/
theorem splitSnapshot_of_digits (front : List Char) {digits : List Char}
    {marker : Option (List Char)} (hne : digits ≠ []) (hdigits : ∀ d ∈ digits, d.isDigit = true)
    (hmarker : ∀ m ∈ marker, IsMarker m) :
    (splitSnapshot (front ++ digits ++ marker.getD [])).1 = front ++ digits := by
  cases marker with
  | some m => rw [Option.getD_some, splitSnapshot_of_isMarker (hmarker m rfl)]
  | none =>
    obtain ⟨init, d, rfl⟩ : ∃ init d, digits = init ++ [d] :=
      ⟨_, _, (List.dropLast_concat_getLast hne).symm⟩
    rw [Option.getD_none, List.append_nil, splitSnapshot_of_not_endsInMarker]
    rw [← List.append_assoc]
    exact not_endsInMarker_of_digit (hdigits d (by simp))

theorem underscore_not_mem_number {digits : List Char} {marker : Option (List Char)}
    (hdigits : ∀ d ∈ digits, d.isDigit = true) (hmarker : ∀ m ∈ marker, IsMarker m) :
    '_' ∉ '-' :: digits ++ marker.getD [] := by
  simp only [List.mem_append, List.mem_cons, not_or]
  refine ⟨⟨by decide, fun hmem => absurd (hdigits '_' hmem) (by decide)⟩, fun hmem => ?_⟩
  cases marker with
  | none => simp at hmem
  | some m =>
    obtain ⟨word, rfl, -, hletters, -⟩ := (hmarker m rfl).eq_cons
    simp only [Option.getD_some, List.mem_cons] at hmem
    exact absurd (hletters '_' (hmem.resolve_left (by decide))) (by decide)

/-- A build number that is read of an OSGi form is as wide as that of the version. -/
theorem width_of_osgi {s : List Char} {b : Build}
    (hb : (ofChars (ofChars s).osgiChars).build = some b) :
    ∃ b', (ofChars s).build = some b' ∧ b'.width = b.width := by
  by_cases hcore : (ofChars s).core = []
  · rw [osgiChars, if_pos hcore, chars_ofChars] at hb
    exact ⟨b, hb, rfl⟩
  obtain ⟨rest, hchars⟩ := (ofChars s).chars_eq_kept
  have hkept : ∀ segment ∈ (ofChars s).core.take 3, Text.isNumeral segment = true :=
    fun segment hsegment => isNumeral_of_mem_core (List.mem_of_mem_take hsegment)
  rw [osgiChars_of_kept hcore rfl hchars] at hb
  split at hb
  · -- the form is numerals between dots
    have hnone : (ofChars (joinSegments ((ofChars s).core.take 3))).build = none := by
      refine build_of_core (by simpa using hcore) hkept ?_
      rw [splitSnapshot_of_not_endsInMarker]
      rintro ⟨front, m, heq, hm⟩
      obtain ⟨word, rfl, -⟩ := hm.eq_cons
      exact dash_not_mem_core hkept (by rw [heq]; simp)
    rw [hnone] at hb
    cases hb
  · have hnodot : '.' ∉ (dropSeparator rest).map osgiChar := by
      simp only [List.mem_map, not_exists, not_and]
      exact fun c _ => osgiChar_ne_dot c
    rw [kept_eq_osgiCore] at hb
    obtain ⟨hword, hwidth, front, marker, hqualifier, hmarker⟩ :=
      number_of_qualified (osgiCore_ne_nil hcore)
        (fun _ => isNumeral_of_mem_osgiCore fun _ => isNumeral_of_mem_core) hnodot hb
    obtain ⟨init, ending, hsplit, -, hending⟩ := List.map_eq_append_iff.mp hqualifier
    obtain ⟨hdigits_ne, hdigits, -, -⟩ := Text.word?_eq_some_iff.mp hword
    obtain rfl := eq_of_map_osgiChar hending (underscore_not_mem_number hdigits hmarker)
    obtain ⟨separator, hrest⟩ := dropSeparator_suffix rest
    rw [chars_ofChars, ← hrest, hsplit] at hchars
    obtain ⟨before, hs⟩ : ∃ before, s = before ++ ['-'] ++ b.digits ++ marker.getD [] :=
      ⟨joinSegments ((ofChars s).core.take 3) ++ separator ++ init, by simpa using hchars⟩
    have hbody := splitSnapshot_of_digits (before ++ ['-']) hdigits_ne hdigits hmarker
    rw [← hs, List.append_assoc] at hbody
    exact ⟨_, build_of_dash (fun _ => isVersionChar_of_core_ne_nil hcore) hbody hword, hwidth.symm⟩

theorem writable_osgi {raw : String} (h : (parse raw).Writable) :
    (parse (parse raw).renderOsgi).Writable := by
  intro b hb
  rw [parse, renderOsgi, String.toList_ofList] at hb
  obtain ⟨b', hb', hwidth⟩ := width_of_osgi hb
  rw [← hwidth]
  exact h b' hb'

/-- OSGi writing gives a normal form: what it writes is written again as it stands, and is of OSGi
form exactly if the version has a numeric core. It writes every text whose build number is not too
wide, and aborts the run for the others. -/
theorem osgi_written_again (raw : String) :
    ((∃ o, (parse raw).renderOsgi? = some o) ↔ (parse raw).Writable) ∧
      ∀ o, (parse raw).renderOsgi? = some o →
        (parse o).renderOsgi? = some o ∧ ((parse raw).core ≠ [] ↔ OsgiForm o.toList) := by
  obtain ⟨hagain, hform⟩ := osgi_normal_form raw
  rw [renderOsgi?_eq]
  refine ⟨by simp, fun o ho => ?_⟩
  obtain ⟨hwritable, rfl⟩ : (parse raw).Writable ∧ (parse raw).renderOsgi = o := by
    simpa using ho
  rw [renderOsgi?_eq, if_pos (writable_osgi hwritable), hagain]
  exact ⟨rfl, hform⟩

theorem wide_number_has_no_osgi_form : (parse wideNumber).renderOsgi? = none := by
  rw [renderOsgi?_eq, if_neg not_writable_wideNumber]

end Version

end BuildAlign
