import BuildAlign.Proofs.Version.OsgiForm
import BuildAlign.Proofs.Version.RoundTrip

/-!
Which versions can be written. A build number keeps the width it was read with, and a number that
is wider than any padding aborts the run that is to write it. For every other version, writing gives
the text that its parts make, so what is known of that text is known of what is written. In
particular a text is written as it was read up to that limit, and no further.
-/

namespace BuildAlign

namespace Version

/-- A version whose build number, if it has one, is not too wide to be written. -/
def Writable (v : Version) : Prop :=
  ∀ b ∈ v.build, b.width ≤ Text.maxWidth

instance : DecidablePred Writable :=
  fun v => inferInstanceAs (Decidable (∀ b ∈ v.build, b.width ≤ Text.maxWidth))

theorem writable_of_build_eq_none {v : Version} (h : v.build = none) : v.Writable := by
  simp [Writable, h]

theorem writable_iff_of_build {v : Version} {b : Build} (h : v.build = some b) :
    v.Writable ↔ b.width ≤ Text.maxWidth := by
  simp [Writable, h]

theorem writable_congr {v w : Version} (h : v.build = w.build) : v.Writable ↔ w.Writable := by
  simp [Writable, h]

@[simp] theorem writable_setSnapshot (v : Version) (on : Bool) :
    (v.setSnapshot on).Writable ↔ v.Writable :=
  Iff.rfl

/-- A new value keeps the width, and the width of a new build number is small. -/
@[simp] theorem writable_setBuild (v : Version) (n : Nat) : (v.setBuild n).Writable ↔ v.Writable := by
  cases hbuild : v.build with
  | none => simp [Writable, setBuild, hbuild, Text.maxWidth]
  | some b => simp [Writable, setBuild, hbuild]

/-! ## What is written -/

theorem Build.digits?_eq (b : Build) :
    b.digits? = if b.width ≤ Text.maxWidth then some b.digits else none :=
  rfl

theorem Build.chars?_eq (b : Build) :
    b.chars? = if b.width ≤ Text.maxWidth then some b.chars else none := by
  rw [Build.chars?, digits?_eq]
  split <;> rfl

theorem chars?_eq (v : Version) : v.chars? = if v.Writable then some v.chars else none := by
  cases hbuild : v.build with
  | none =>
    rw [if_pos (writable_of_build_eq_none hbuild)]
    simp [chars?, chars, hbuild]
  | some b =>
    simp only [writable_iff_of_build hbuild, chars?, hbuild, Option.mapM_some, Build.chars?_eq]
    split
    · simp [chars, hbuild]
    · rfl

/-- A version is written as the text that its parts make, or the run is aborted. -/
theorem render?_eq (v : Version) : v.render? = if v.Writable then some v.render else none := by
  rw [render?, chars?_eq]
  split <;> rfl

/-- The OSGi form can be written exactly if the plain form can. -/
theorem renderOsgi?_eq (v : Version) :
    v.renderOsgi? = if v.Writable then some v.renderOsgi else none := by
  rw [renderOsgi?, osgiChars?, chars?_eq, renderOsgi, osgiChars]
  by_cases hcore : v.core = []
  · simp only [if_pos hcore]
    split <;> rfl
  · simp only [if_neg hcore]
    split <;> rfl

theorem renderAs?_eq (v : Version) (osgi : Bool) :
    v.renderAs? osgi = if v.Writable then some (v.renderAs osgi) else none := by
  cases osgi with
  | false => exact v.render?_eq
  | true => exact v.renderOsgi?_eq

/-! ## Texts that were read -/

/-- The build number that a text ends in, up to the snapshot marker: it stands there with all its
digits, and they fit into 64 bits. -/
structure EndsInNumber (s : List Char) (b : Build) : Prop where
  chars : ∀ c ∈ s, isVersionChar c = true
  separator : b.separator = '.' ∨ b.separator = '-'
  width : b.width = b.digits.length
  word : Text.word? b.digits = some b.value
  body : ∃ front, (splitSnapshot s).1 = front ++ b.chars

/-- What is known of a build number that was read: its digits stand at the end of the text, so no
text shorter than the limit has one that is too wide. -/
theorem endsInNumber_of_build {s : List Char} {b : Build} (hb : (ofChars s).build = some b) :
    EndsInNumber s b := by
  have hcore := splitCore_append (splitSnapshot s).1
  have hback := splitBuild_append (splitCore (splitSnapshot s).1).2
  unfold ofChars at hb
  split at hb
  · rename_i hall
    have hsplit : (splitBuild (splitCore (splitSnapshot s).1).2).2 = some b := hb
    have hbody : ∃ front, (splitSnapshot s).1 = front ++ b.chars := by
      rw [hsplit, Option.map_some, Option.getD_some] at hback
      rw [← hback, ← List.append_assoc] at hcore
      exact ⟨_, hcore.symm⟩
    unfold splitBuild at hsplit
    split at hsplit
    split at hsplit
    · split at hsplit
      · rename_i hword hseparator
        obtain rfl := Option.some.inj hsplit
        obtain ⟨hne, hdigits, -, rfl⟩ := Text.word?_eq_some_iff.mp hword
        have hpadded := Text.padded_numeral hne hdigits
        exact
          { chars := List.all_eq_true.mp hall
            separator := hseparator
            width := by simp [Build.digits, hpadded]
            word := by simpa [Build.digits, hpadded] using hword
            body := hbody }
      · cases hsplit
    · cases hsplit
  · cases hb

/-- A text is written as it was read, unless its build number has more digits than a number can be
padded to: then the run is aborted. The width that decides is the number of the digits that stand in
the text. -/
theorem written_as_read (raw : String) :
    (parse raw).render? = (if (parse raw).Writable then some raw else none) ∧
      ∀ b ∈ (parse raw).build, b.width = b.digits.length ∧ b.chars <:+: raw.toList := by
  constructor
  · rw [render?_eq, render_parse]
  · intro b hb
    have hnumber := endsInNumber_of_build hb
    obtain ⟨front, hbody⟩ := hnumber.body
    refine ⟨hnumber.width, front, (splitSnapshot raw.toList).2.getD [], ?_⟩
    rw [← hbody, splitSnapshot_append]

/-- A number and its separator take no more characters than the text has, so only texts with more
characters than a number can have digits may be too wide. -/
theorem writable_of_length_le {raw : String} (h : raw.length ≤ Text.maxWidth + 1) :
    (parse raw).Writable := by
  intro b hb
  have hnumber := endsInNumber_of_build hb
  obtain ⟨front, hbody⟩ := hnumber.body
  have hlength := congrArg List.length (splitSnapshot_append raw.toList)
  simp only [hbody, Build.chars, List.length_append, List.length_cons, String.length_toList,
    ← hnumber.width] at hlength
  omega

/-! ## A number that is too wide -/

/-- The version `1` with the build number one, of one digit more than a number can be padded to. -/
def widestUnwritable : Version where
  core := [['1']]
  separator := none
  qualifier := []
  build := some { separator := '-', value := 1, width := Text.maxWidth + 1 }
  snapshot := none

/-- Its text: `1-`, then zeros, then `1`. -/
def wideNumber : String :=
  String.ofList ('1' :: '-' :: (List.replicate Text.maxWidth '0' ++ ['1']))

theorem legible_widestUnwritable : widestUnwritable.Legible where
  core_ne_nil := List.cons_ne_nil _ _
  core_numerals := by simp [widestUnwritable, Text.isNumeral]
  tail_chars := by simp [widestUnwritable, tail]
  tail_splits := rfl
  core_ends := ⟨by decide, fun hdot => absurd hdot (by decide)⟩
  build_legible := by
    rintro b ⟨⟩
    exact { separator := .inr rfl, fits := by decide }
  unnumbered := nofun
  unmarked := nofun
  snapshot_marker := nofun

theorem render_widestUnwritable : widestUnwritable.render = wideNumber := by
  have hone : Nat.toDigits 10 1 = ['1'] := by decide
  simp [render, chars, widestUnwritable, wideNumber, joinSegments, Build.chars, Build.digits,
    Text.padded, hone]

theorem parse_wideNumber : parse wideNumber = widestUnwritable.written := by
  rw [← render_widestUnwritable]
  exact legible_widestUnwritable.parse_render

/-- The text is read with all its digits, so what is read of it cannot be written. -/
theorem not_writable_wideNumber : ¬ (parse wideNumber).Writable := by
  have hwidth : Text.maxWidth + 1 ≤ (Text.padded (Text.maxWidth + 1) 1).length :=
    Text.le_length_padded _ _
  rw [parse_wideNumber, writable_iff_of_build rfl]
  exact Nat.not_le.mpr hwidth

theorem wide_number_not_written : (parse wideNumber).render? = none := by
  rw [render?_eq, if_neg not_writable_wideNumber]

end Version

end BuildAlign
