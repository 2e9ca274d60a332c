import BuildAlign.Proofs.Text.Cutting
import BuildAlign.Proofs.Version.Characters
import BuildAlign.Proofs.Version.RoundTrip

/-!
Which versions are read back from their written form. A version is legible when each of the four
cuts of `ofChars` falls where its parts meet: the marker is the only one at the end, nothing after
the core continues it, and the qualifier does not end like a build number.
-/

namespace BuildAlign.Version

/-! ## Where the cuts fall -/

theorem splitSnapshot_of_isMarker {body m : List Char} (hm : IsMarker m) :
    splitSnapshot (body ++ m) = (body, some m) := by
  have hlength : (body ++ m).length - snapshotMarker.length = body.length := by
    rw [List.length_append, hm.length_eq]
    exact Nat.add_sub_cancel _ _
  simp only [splitSnapshot, hlength, List.take_left, List.drop_left]
  exact if_pos hm

theorem splitSnapshot_of_not_endsInMarker {s : List Char} (hs : ¬ EndsInMarker s) :
    splitSnapshot s = (s, none) := by
  simp only [splitSnapshot]
  split
  · rename_i hm
    exact absurd ⟨_, _, (List.take_append_drop _ s).symm, hm⟩ hs
  · rfl

theorem isMarker_splitSnapshot {raw m : List Char} (hm : m ∈ (splitSnapshot raw).2) :
    IsMarker m := by
  rw [splitSnapshot] at hm
  split at hm
  · rename_i hmarker
    obtain rfl := Option.some.inj hm
    exact hmarker
  · cases hm

/-- What follows a core does not go on like one: neither with a digit nor with a dot and a digit. -/
def EndsCore : List Char → Prop
  | [] => True
  | c :: s => c.isDigit = false ∧ (c = '.' → ∀ d, s.head? = some d → d.isDigit = false)

theorem readSegments_of_endsCore {rest : List Char} (hrest : EndsCore rest) :
    readSegments rest = ([], [], rest) := by
  cases rest with
  | nil => rfl
  | cons c s =>
    obtain ⟨hdigit, hdot⟩ := hrest
    have hnext : (c = '.' && (s.head?.map Char.isDigit).getD false) = false := by
      by_cases hc : c = '.'
      · cases hs : s.head? with
        | none => simp
        | some d => simp [hdot hc d hs]
      · simp [hc]
    simp [readSegments, hdigit, hnext]

theorem readSegments_digits {digits s : List Char} (hdigits : ∀ d ∈ digits, d.isDigit = true) :
    readSegments (digits ++ s) =
      (digits ++ (readSegments s).1, (readSegments s).2.1, (readSegments s).2.2) := by
  induction digits with
  | nil => rfl
  | cons d digits ih =>
    have htail := ih (fun e he => hdigits e (by simp [he]))
    simp [readSegments, hdigits d (by simp), htail]

theorem isNumeral_iff {s : List Char} :
    Text.isNumeral s = true ↔ s ≠ [] ∧ ∀ d ∈ s, d.isDigit = true := by
  simp [Text.isNumeral]

/-- A numeral starts with a digit, whatever follows it. -/
theorem head_digit_of_isNumeral {s rest : List Char} (hs : Text.isNumeral s = true) :
    ((s ++ rest).head?.map Char.isDigit).getD false = true := by
  obtain ⟨hne, hdigits⟩ := isNumeral_iff.mp hs
  cases s with
  | nil => exact absurd rfl hne
  | cons d s => simpa using hdigits d (by simp)

theorem joinSegments_cons_cons (s t : List Char) (later : List (List Char)) :
    joinSegments (s :: t :: later) = s ++ '.' :: joinSegments (t :: later) := rfl

theorem mem_joinSegments {core : List (List Char)} {c : Char} (hc : c ∈ joinSegments core) :
    c = '.' ∨ ∃ segment ∈ core, c ∈ segment := by
  induction core with
  | nil => exact absurd hc List.not_mem_nil
  | cons first later ih =>
    cases later with
    | nil => exact .inr ⟨first, List.mem_cons_self .., hc⟩
    | cons second later =>
      rw [joinSegments_cons_cons, List.mem_append, List.mem_cons] at hc
      rcases hc with hc | rfl | hc
      · exact .inr ⟨first, List.mem_cons_self .., hc⟩
      · exact .inl rfl
      · rcases ih hc with hdot | ⟨segment, hsegment, hc⟩
        · exact .inl hdot
        · exact .inr ⟨segment, List.mem_cons_of_mem _ hsegment, hc⟩

theorem joinSegments_append {front later : List (List Char)} (hfront : front ≠ [])
    (hlater : later ≠ []) :
    joinSegments (front ++ later) = joinSegments front ++ '.' :: joinSegments later := by
  induction front with
  | nil => exact absurd rfl hfront
  | cons s front ih =>
    cases front with
    | nil =>
      obtain ⟨t, later, rfl⟩ := List.exists_cons_of_ne_nil hlater
      rfl
    | cons t front =>
      have htail := ih (List.cons_ne_nil t front)
      rw [List.cons_append, List.cons_append, joinSegments_cons_cons, joinSegments_cons_cons,
        ← List.cons_append, htail, List.append_assoc, List.cons_append]

theorem head_digit_of_joinSegments {s : List Char} {later : List (List Char)} {rest : List Char}
    (hs : Text.isNumeral s = true) :
    ((joinSegments (s :: later) ++ rest).head?.map Char.isDigit).getD false = true := by
  cases later with
  | nil => exact head_digit_of_isNumeral hs
  | cons t later =>
    rw [joinSegments_cons_cons, List.append_assoc]
    exact head_digit_of_isNumeral hs

/-- A segment and those behind it are read up to a text that does not go on with digits. -/
theorem readSegments_joinSegments {s : List Char} {later : List (List Char)} {rest : List Char}
    (hs : Text.isNumeral s = true) (hlater : ∀ t ∈ later, Text.isNumeral t = true)
    (hrest : (readSegments rest).1 = []) :
    readSegments (joinSegments (s :: later) ++ rest) =
      (s, later ++ (readSegments rest).2.1, (readSegments rest).2.2) := by
  induction later generalizing s with
  | nil =>
    rw [joinSegments, readSegments_digits (isNumeral_iff.mp hs).2, hrest, List.append_nil,
      List.nil_append]
  | cons t later ih =>
    have ht : Text.isNumeral t = true := hlater t (by simp)
    have htail := ih ht (fun u hu => hlater u (by simp [hu]))
    have hstart : (('.' == '.') &&
        ((joinSegments (t :: later) ++ rest).head?.map Char.isDigit).getD false) = true := by
      rw [head_digit_of_joinSegments ht]
      rfl
    have hdot : readSegments ('.' :: (joinSegments (t :: later) ++ rest)) =
        ([], t :: later ++ (readSegments rest).2.1, (readSegments rest).2.2) := by
      rw [readSegments, if_neg (by decide), if_pos (by simpa using hstart), htail]
      rfl
    rw [joinSegments_cons_cons, List.append_assoc, readSegments_digits (isNumeral_iff.mp hs).2,
      List.cons_append, hdot, List.append_nil]

/-- The core is cut off where it ends, whatever follows that cannot go on with it. -/
theorem splitCore_joinSegments {core : List (List Char)} {rest : List Char} (hne : core ≠ [])
    (hcore : ∀ s ∈ core, Text.isNumeral s = true) (hrest : EndsCore rest) :
    splitCore (joinSegments core ++ rest) = (core, rest) := by
  cases core with
  | nil => exact absurd rfl hne
  | cons s later =>
    have hs : Text.isNumeral s = true := hcore s (by simp)
    have hread := readSegments_of_endsCore hrest
    rw [splitCore, if_pos (head_digit_of_joinSegments hs),
      readSegments_joinSegments hs (fun t ht => hcore t (by simp [ht])) (by rw [hread]), hread,
      List.append_nil]

/-- A build number that can be read: its separator is a dot or a dash, and it fits into 64 bits. -/
structure Build.Legible (b : Build) : Prop where
  separator : b.separator = '.' ∨ b.separator = '-'
  fits : b.value ≤ Text.maxWord

theorem Build.isDigit_of_mem_digits {b : Build} {d : Char} (hd : d ∈ b.digits) :
    d.isDigit = true :=
  Text.isDigit_of_mem_padded hd

theorem Build.digits_ne_nil (b : Build) : b.digits ≠ [] :=
  Text.padded_ne_nil b.width b.value

/-- A build number with the width that it is written with. -/
def Build.written (b : Build) : Build :=
  { b with width := b.digits.length }

theorem splitBuild_chars {b : Build} (hb : b.Legible) (front : List Char) :
    splitBuild (front ++ b.chars) = (front, some b.written) := by
  have hspan : Text.spanEnd Char.isDigit ((front ++ [b.separator]) ++ b.digits) =
      (front ++ [b.separator], b.digits) := by
    apply Text.spanEnd_of_append
    · intro c hc
      exact Build.isDigit_of_mem_digits hc
    · intro c hc
      rw [List.getLast?_concat, Option.some.injEq] at hc
      subst hc
      rcases hb.separator with hdot | hdash
      · rw [hdot]; rfl
      · rw [hdash]; rfl
  rw [List.append_assoc, List.singleton_append] at hspan
  have hword : Text.word? b.digits = some b.value := Text.word?_padded hb.fits
  simp only [splitBuild, Build.chars, hspan, List.getLast?_concat, hword, List.dropLast_concat]
  rw [if_pos hb.separator]
  rfl

/-- No build number is split off when the trailing digits do not follow a dot or a dash. -/
theorem splitBuild_of_glued (front : List Char) {run : List Char}
    (hrun : ∀ c ∈ run, c.isDigit = true)
    (hfront : ∀ c, front.getLast? = some c → c.isDigit = false ∧ c ≠ '.' ∧ c ≠ '-') :
    splitBuild (front ++ run) = (front ++ run, none) := by
  have hspan := Text.spanEnd_of_append hrun (fun c hc => (hfront c hc).1)
  simp only [splitBuild, hspan]
  split
  · rename_i c n hlast _
    obtain ⟨_, hdot, hdash⟩ := hfront c hlast
    simp [hdot, hdash]
  · rfl

/-- No build number is split off when the trailing digits exceed 64 bits. -/
theorem splitBuild_of_overflow (front : List Char) {run : List Char}
    (hrun : ∀ c ∈ run, c.isDigit = true)
    (hfront : ∀ c, front.getLast? = some c → c.isDigit = false)
    (hoverflow : Text.word? run = none) :
    splitBuild (front ++ run) = (front ++ run, none) := by
  simp [splitBuild, Text.spanEnd_of_append hrun hfront, hoverflow]

theorem splitSeparator_of_isSeparator {c : Char} (hc : isSeparator c = true) (s : List Char) :
    splitSeparator (c :: s) = (some c, s) := by
  simp [splitSeparator, hc]

theorem splitSeparator_of_head {s : List Char}
    (hs : ∀ c, s.head? = some c → isSeparator c = false) : splitSeparator s = (none, s) := by
  cases s with
  | nil => rfl
  | cons c s => simp [splitSeparator, hs c rfl]

/-! ## The parts of the written form -/

def tail (v : Version) : List Char :=
  v.separator.toList ++ v.qualifier

/-- What follows the core, without the snapshot marker. -/
def afterCore (v : Version) : List Char :=
  v.tail ++ (v.build.map Build.chars).getD []

theorem chars_eq_afterCore (v : Version) :
    v.chars = joinSegments v.core ++ v.afterCore ++ v.snapshot.getD [] := by
  simp [chars, afterCore, tail]

/-- The version as it is read back: the width of the build number is what is written. -/
def written (v : Version) : Version :=
  { v with build := v.build.map Build.written }

@[simp] theorem base_written (v : Version) : v.written.base = v.base := rfl

@[simp] theorem buildNumber_written (v : Version) : v.written.buildNumber = v.buildNumber := by
  simp [written, buildNumber, Function.comp_def, Build.written]

@[simp] theorem buildNumber_setBuild (v : Version) (n : Nat) :
    (v.setBuild n).buildNumber = some n := by
  rw [buildNumber, setBuild]
  cases v.build <;> rfl

theorem setBuild_of_buildNumber {v : Version} {n : Nat} (hn : v.buildNumber = some n) :
    v.setBuild n = v := by
  obtain ⟨b, hb, rfl⟩ := Option.map_eq_some_iff.mp hn
  rw [setBuild, hb]
  exact congrArg (fun build => { v with build }) hb.symm

/-! ## Legible versions -/

/-- The parts of a version meet where the cuts of its written form fall. -/
structure Legible (v : Version) : Prop where
  core_ne_nil : v.core ≠ []
  core_numerals : ∀ s ∈ v.core, Text.isNumeral s = true
  tail_chars : ∀ c ∈ v.tail, isVersionChar c = true
  tail_splits : splitSeparator v.tail = (v.separator, v.qualifier)
  core_ends : EndsCore v.afterCore
  build_legible : ∀ b ∈ v.build, b.Legible
  unnumbered : v.build = none → splitBuild v.tail = (v.tail, none)
  unmarked : v.build = none → ¬ EndsInMarker (joinSegments v.core ++ v.tail)
  snapshot_marker : ∀ m ∈ v.snapshot, IsMarker m

theorem not_endsInMarker_of_digit {s : List Char} {d : Char} (hd : d.isDigit = true) :
    ¬ EndsInMarker (s ++ [d]) := by
  rintro ⟨front, m, heq, hm⟩
  obtain ⟨word, rfl, hne, hletters, _⟩ := hm.eq_cons
  obtain ⟨init, last, rfl⟩ : ∃ init last, word = init ++ [last] :=
    ⟨word.dropLast, word.getLast hne, (List.dropLast_concat_getLast hne).symm⟩
  have hlast : last.isAlpha = true := hletters last (by simp)
  have heq' : s ++ [d] = (front ++ '-' :: init) ++ [last] := by simpa using heq
  obtain ⟨_, hchar⟩ := List.append_inj' heq' rfl
  obtain rfl : d = last := by simpa using hchar
  rw [isDigit_of_isAlpha hlast] at hd
  exact Bool.false_ne_true hd

/-- Written digits of a build number are no marker. -/
theorem not_endsInMarker_of_build (b : Build) (front : List Char) :
    ¬ EndsInMarker (front ++ b.chars) := by
  have hne := b.digits_ne_nil
  have hlast : (b.digits.getLast hne).isDigit = true :=
    Build.isDigit_of_mem_digits (List.getLast_mem hne)
  have hsplit : front ++ b.chars =
      (front ++ b.separator :: b.digits.dropLast) ++ [b.digits.getLast hne] := by
    simp [Build.chars, List.dropLast_concat_getLast hne]
  rw [hsplit]
  exact not_endsInMarker_of_digit hlast

theorem isVersionChar_of_mem_joinSegments {core : List (List Char)}
    (hcore : ∀ s ∈ core, Text.isNumeral s = true) {c : Char} (hc : c ∈ joinSegments core) :
    isVersionChar c = true := by
  rcases mem_joinSegments hc with rfl | ⟨s, hs, hc⟩
  · decide
  · have hdigit := (isNumeral_iff.mp (hcore s hs)).2 c hc
    exact isVersionChar_of_isAlphanum (isAlphanum_of_isDigit hdigit)

theorem isVersionChar_of_mem_build {b : Build} (hb : b.Legible) {c : Char} (hc : c ∈ b.chars) :
    isVersionChar c = true := by
  rw [Build.chars, List.mem_cons] at hc
  rcases hc with rfl | hc
  · rcases hb.separator with hdot | hdash
    · rw [hdot]; decide
    · rw [hdash]; decide
  · exact isVersionChar_of_isAlphanum (isAlphanum_of_isDigit (Build.isDigit_of_mem_digits hc))

theorem IsMarker.isVersionChar {m : List Char} (hm : IsMarker m) {c : Char} (hc : c ∈ m) :
    isVersionChar c = true := by
  obtain ⟨word, rfl, _, hletters, _⟩ := hm.eq_cons
  rcases List.mem_cons.mp hc with rfl | hc
  · decide
  · exact isVersionChar_of_isAlphanum (isAlphanum_iff.mpr (.inl (hletters c hc)))

namespace Legible

variable {v : Version}

theorem isVersionChar_of_mem (hv : v.Legible) {c : Char} (hc : c ∈ v.chars) :
    isVersionChar c = true := by
  simp only [chars_eq_afterCore, afterCore, List.mem_append] at hc
  rcases hc with (hc | hc | hc) | hc
  · exact isVersionChar_of_mem_joinSegments hv.core_numerals hc
  · exact hv.tail_chars c hc
  · cases hbuild : v.build with
    | none => simp [hbuild] at hc
    | some b =>
      exact isVersionChar_of_mem_build (hv.build_legible b hbuild) (by simpa [hbuild] using hc)
  · cases hsnapshot : v.snapshot with
    | none => simp [hsnapshot] at hc
    | some m => exact (hv.snapshot_marker m hsnapshot).isVersionChar (by simpa [hsnapshot] using hc)

theorem splitSnapshot_chars (hv : v.Legible) :
    splitSnapshot v.chars = (joinSegments v.core ++ v.afterCore, v.snapshot) := by
  rw [chars_eq_afterCore]
  cases hsnapshot : v.snapshot with
  | some m => exact splitSnapshot_of_isMarker (hv.snapshot_marker m hsnapshot)
  | none =>
    rw [Option.getD_none, List.append_nil]
    apply splitSnapshot_of_not_endsInMarker
    cases hbuild : v.build with
    | none => simpa [afterCore, hbuild] using hv.unmarked hbuild
    | some b =>
      simp only [afterCore, hbuild, Option.map_some, Option.getD_some]
      rw [← List.append_assoc]
      exact not_endsInMarker_of_build b _

theorem splitBuild_afterCore (hv : v.Legible) :
    splitBuild v.afterCore = (v.tail, v.build.map Build.written) := by
  cases hbuild : v.build with
  | none => simpa [afterCore, hbuild] using hv.unnumbered hbuild
  | some b =>
    simpa [afterCore, hbuild] using splitBuild_chars (hv.build_legible b hbuild) v.tail

/-- A legible version is read back from its written form; only the width of the build number becomes
what is written. -/
theorem ofChars_chars (hv : v.Legible) : ofChars v.chars = v.written := by
  have hall : v.chars.all isVersionChar = true :=
    List.all_eq_true.mpr fun _ hc => hv.isVersionChar_of_mem hc
  simp only [ofChars, if_pos hall, hv.splitSnapshot_chars,
    splitCore_joinSegments hv.core_ne_nil hv.core_numerals hv.core_ends, hv.splitBuild_afterCore,
    hv.tail_splits]
  rfl

/-- Written and read again, a legible version has the same parts, with the width of its number made
explicit. -/
theorem parse_render (hv : v.Legible) : parse v.render = v.written := by
  rw [parse, render, String.toList_ofList, hv.ofChars_chars]

end Legible

end BuildAlign.Version
