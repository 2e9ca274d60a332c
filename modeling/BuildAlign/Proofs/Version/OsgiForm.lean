import BuildAlign.Proofs.Version.Tidy
import BuildAlign.Version.Base

/-!
The shape of OSGi forms: three segments, a dot, and what is left of the version in OSGi characters.
Bases do not see most of what is changed on the way, since all separators are alike in them and zero
segments at the end of a core do not count.
-/

namespace BuildAlign.Version

/-! ## The shape of an OSGi form -/

/-- The three segments at the start of an OSGi form. -/
def osgiCore (v : Version) : List (List Char) :=
  v.core.take 3 ++ List.replicate (3 - v.core.length) ['0']

/-- What goes into the qualifier of an OSGi form, before the build number. -/
def osgiLabel (v : Version) : List Char :=
  if v.core.length ≤ 3 then v.qualifier else joinSegments (v.core.drop 3) ++ v.tail

theorem dropSeparator_append {s : List Char} {separator : Option Char} {qualifier : List Char}
    (hs : splitSeparator s = (separator, qualifier)) (hne : qualifier ≠ []) (rest : List Char) :
    dropSeparator (s ++ rest) = qualifier ++ rest := by
  cases s with
  | nil => exact absurd (congrArg Prod.snd hs).symm hne
  | cons c s =>
    rw [splitSeparator] at hs
    rw [List.cons_append, dropSeparator]
    split at hs
    · obtain ⟨_, rfl⟩ := Prod.mk.inj hs
      rw [if_pos (by assumption)]
    · obtain ⟨_, rfl⟩ := Prod.mk.inj hs
      rw [if_neg (by assumption), List.cons_append]

def ending (v : Version) : List Char :=
  (v.build.map Build.chars).getD [] ++ v.snapshot.getD []

theorem chars_eq_tail (v : Version) :
    v.chars = joinSegments v.core ++ (v.tail ++ v.ending) := by
  simp [chars_eq_afterCore, afterCore, ending]

/-- What is left of the written form after three segments and one separator. -/
theorem dropSeparator_drop_chars {v : Version} (hv : v.Tidy) (hq : v.qualifier ≠ []) :
    dropSeparator (v.chars.drop (joinSegments (v.core.take 3)).length) =
      v.osgiLabel ++ v.ending := by
  rw [chars_eq_tail, osgiLabel]
  by_cases hshort : v.core.length ≤ 3
  · rw [if_pos hshort, List.take_of_length_le hshort, List.drop_left]
    exact dropSeparator_append hv.splitSeparator_tail hq _
  · have hkept : v.core.take 3 ≠ [] := by
      intro hnil
      have hlength := congrArg List.length hnil
      rw [List.length_take, List.length_nil] at hlength
      omega
    have hmore : v.core.drop 3 ≠ [] := by
      intro hnil
      have hlength := congrArg List.length hnil
      rw [List.length_drop, List.length_nil] at hlength
      omega
    have hcore : joinSegments v.core =
        joinSegments (v.core.take 3) ++ '.' :: joinSegments (v.core.drop 3) := by
      rw [← joinSegments_append hkept hmore, List.take_append_drop]
    rw [if_neg hshort, hcore, List.append_assoc, List.drop_left, List.cons_append, dropSeparator,
      if_pos (by decide), List.append_assoc]

theorem osgiLabel_ne_nil {v : Version} (hq : v.qualifier ≠ []) : v.osgiLabel ≠ [] := by
  rw [osgiLabel]
  split
  · exact hq
  · simp [tail, hq]

theorem kept_eq_osgiCore (v : Version) :
    v.core.take 3 ++ List.replicate (3 - (v.core.take 3).length) ['0'] = v.osgiCore := by
  rw [osgiCore, List.length_take]
  congr 2
  omega

/-- An OSGi form is three segments, a dot, and the rest in OSGi characters. -/
theorem osgiChars_eq {v : Version} (hv : v.Tidy) (hq : v.qualifier ≠ []) :
    v.osgiChars =
      joinSegments v.osgiCore ++ '.' :: (v.osgiLabel ++ v.ending).map osgiChar := by
  have hrest := dropSeparator_drop_chars hv hq
  have hne : (v.osgiLabel ++ v.ending).map osgiChar ≠ [] := by
    simp [osgiLabel_ne_nil hq]
  simp only [osgiChars, osgiOf, if_neg hv.core_ne_nil, hrest, if_neg hne, kept_eq_osgiCore]

theorem osgiCore_ne_nil {v : Version} (hv : v.core ≠ []) : v.osgiCore ≠ [] := by
  obtain ⟨s, later, hcore⟩ := List.exists_cons_of_ne_nil hv
  simp [osgiCore, hcore]

theorem isNumeral_of_mem_osgiCore {v : Version} (hv : ∀ s ∈ v.core, Text.isNumeral s = true)
    {s : List Char} (hs : s ∈ v.osgiCore) : Text.isNumeral s = true := by
  rcases List.mem_append.mp hs with hs | hs
  · exact hv s (List.mem_of_mem_take hs)
  · obtain rfl : s = ['0'] := List.eq_of_mem_replicate hs
    rfl

/-! ## Characters that an OSGi form keeps -/

theorem map_osgiChar_of_digits {digits : List Char} (hdigits : ∀ d ∈ digits, d.isDigit = true) :
    digits.map osgiChar = digits := by
  rw [List.map_congr_left fun d hd => osgiChar_of_isAlphanum (isAlphanum_of_isDigit (hdigits d hd)),
    List.map_id']

theorem map_osgiChar_build (b : Build) :
    b.chars.map osgiChar = osgiChar b.separator :: b.digits := by
  rw [Build.chars, List.map_cons, map_osgiChar_of_digits fun _ => Build.isDigit_of_mem_digits]

theorem map_osgiChar_snapshot {v : Version} (hv : ∀ m ∈ v.snapshot, IsMarker m) :
    (v.snapshot.getD []).map osgiChar = v.snapshot.getD [] := by
  cases hsnapshot : v.snapshot with
  | none => rfl
  | some m =>
    obtain ⟨word, rfl, _, hletters, _⟩ := (hv m hsnapshot).eq_cons
    have hword : word.map osgiChar = word := by
      rw [List.map_congr_left fun c hc =>
        osgiChar_of_isAlphanum (isAlphanum_iff.mpr (.inl (hletters c hc))), List.map_id']
    rw [Option.getD_some, List.map_cons, hword]
    rfl

/-- A build number that is attached with a dash, and the marker, are written as they are. -/
theorem map_osgiChar_ending {v : Version} (hsnapshot : ∀ m ∈ v.snapshot, IsMarker m)
    (hdash : ∀ b ∈ v.build, b.separator = '-') : v.ending.map osgiChar = v.ending := by
  rw [ending, List.map_append, map_osgiChar_snapshot hsnapshot]
  cases hbuild : v.build with
  | none => rfl
  | some b =>
    have hb : b.chars.map osgiChar = b.chars := by
      rw [map_osgiChar_build, hdash b hbuild, Build.chars, hdash b hbuild]
      rfl
    rw [Option.map_some, Option.getD_some, hb]

theorem isVersionChar_osgiChar (c : Char) : isVersionChar (osgiChar c) = true := by
  rcases osgiChar_cases c with hc | hc | hc
  · exact isVersionChar_of_isAlphanum hc
  · rw [hc]; decide
  · rw [hc]; decide

/-! ## Bases -/

theorem dropZeros_append_zeros {core : List (List Char)} (hne : core ≠ []) (n : Nat) :
    dropZeros (core ++ List.replicate n ['0']) = dropZeros core := by
  obtain ⟨s, later, rfl⟩ := List.exists_cons_of_ne_nil hne
  have hzeros : ∀ n (l : List (List Char)),
      (List.replicate n ['0'] ++ l).dropWhile (· == ['0']) = l.dropWhile (· == ['0']) := by
    intro n l
    induction n with
    | zero => rfl
    | succ n ih => rw [List.replicate_succ, List.cons_append, List.dropWhile_cons, ih]; rfl
  simp [dropZeros, hzeros]

theorem map_labelChar_osgiChar {s : List Char} (hs : Segmented s) :
    (s.map osgiChar).map labelChar = s.map labelChar := by
  rw [List.map_map]
  exact List.map_congr_left fun c hc => labelChar_osgiChar (hs.char_of_mem hc)

end BuildAlign.Version
