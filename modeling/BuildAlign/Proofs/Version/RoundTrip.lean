import BuildAlign.Proofs.Text.Numeral
import BuildAlign.Version.Parse

/-!
Reading a version loses nothing and invents nothing. Each of the four cuts of `ofChars` gives back
the text it cuts, so writing what was read is the identity on every text, whatever it looks like.
-/

namespace BuildAlign.Version

/-- The part before the snapshot marker and the marker are the text. -/
theorem splitSnapshot_append (raw : List Char) :
    (splitSnapshot raw).1 ++ (splitSnapshot raw).2.getD [] = raw := by
  simp only [splitSnapshot]
  split <;> simp

/-- Continued segments, joined by dots, and the rest are the text. -/
theorem readSegments_append (s : List Char) :
    joinSegments ((readSegments s).1 :: (readSegments s).2.1) ++ (readSegments s).2.2 = s := by
  induction s with
  | nil => simp [readSegments, joinSegments]
  | cons c s ih =>
    rw [readSegments]
    split
    · -- a digit goes to the front of the segment that is being read
      cases hlater : (readSegments s).2.1 with
      | nil => simpa [joinSegments, hlater] using ih
      | cons next later => simpa [joinSegments, hlater] using ih
    · split
      · rename_i hdot
        have hc : c = '.' := by simpa using (Bool.and_eq_true_iff.mp hdot).1
        simpa [joinSegments, hc] using ih
      · simp [joinSegments]

/-- The core, joined by dots, and the rest are the text. -/
theorem splitCore_append (s : List Char) :
    joinSegments (splitCore s).1 ++ (splitCore s).2 = s := by
  unfold splitCore
  split
  · exact readSegments_append s
  · simp [joinSegments]

/-- The part before the build number and the number, with the width it was read with, are the
text. -/
theorem splitBuild_append (s : List Char) :
    (splitBuild s).1 ++ ((splitBuild s).2.map Build.chars).getD [] = s := by
  have hspan := Text.spanEnd_append Char.isDigit s
  unfold splitBuild
  split
  · rename_i front digits hparts
    rw [hparts] at hspan
    split
    · rename_i separator n hlast hword
      split
      · obtain ⟨init, rfl⟩ := List.getLast?_eq_some_iff.mp hlast
        obtain ⟨hne, hdigits, _, rfl⟩ := Text.word?_eq_some_iff.mp hword
        simpa [Build.chars, Build.digits, Text.padded_numeral hne hdigits] using hspan
      · simp
    · simp

/-- The leading separator and the rest are the text. -/
theorem splitSeparator_append (s : List Char) :
    (splitSeparator s).1.toList ++ (splitSeparator s).2 = s := by
  cases s with
  | nil => rfl
  | cons c s =>
    rw [splitSeparator]
    split <;> simp

/-- Splitting loses no character: the parts make the text again. -/
theorem chars_ofChars (raw : List Char) : (ofChars raw).chars = raw := by
  unfold ofChars
  split
  · have hsnapshot := splitSnapshot_append raw
    have hcore := splitCore_append (splitSnapshot raw).1
    have hbuild := splitBuild_append (splitCore (splitSnapshot raw).1).2
    have hseparator := splitSeparator_append (splitBuild (splitCore (splitSnapshot raw).1).2).1
    simp only [chars]
    rw [List.append_assoc (joinSegments _), hseparator, List.append_assoc (joinSegments _), hbuild,
      hcore, hsnapshot]
  · simp [chars, opaqueText, joinSegments]

/-- Writing an unchanged version gives the text that it was read from, for every text. -/
theorem render_parse (raw : String) : (parse raw).render = raw := by
  rw [render, parse, chars_ofChars, String.ofList_toList]

/-- An overflowing number, doubled separators and a marker in mixed case are kept as written. -/
example :
    (parse "1.02..x--00099999999999999999999-0_-sNaPsHoT").render =
      "1.02..x--00099999999999999999999-0_-sNaPsHoT" := by
  decide +kernel

end BuildAlign.Version
