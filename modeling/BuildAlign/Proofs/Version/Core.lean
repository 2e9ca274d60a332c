import BuildAlign.Proofs.Version.Legible

/-!
Reading cores. The segments of a core are numerals, whatever text it is read from. A text in front
of which a core is written goes on with it or ends it, and of a text that ends it nothing is read as
a part of the core, the snapshot marker among them.
-/

namespace BuildAlign.Version

/-! ## The segments -/

theorem readSegments_ne_nil {s : List Char} (hs : (s.head?.map Char.isDigit).getD false = true) :
    (readSegments s).1 ≠ [] := by
  cases s with
  | nil => exact absurd hs Bool.false_ne_true
  | cons c s =>
    have hc : c.isDigit = true := by simpa using hs
    rw [readSegments, if_pos hc]
    exact List.cons_ne_nil c _

/-- The segment that is continued gets digits only, and every later one is a numeral. -/
theorem readSegments_numerals (s : List Char) :
    (∀ c ∈ (readSegments s).1, c.isDigit = true) ∧
      ∀ segment ∈ (readSegments s).2.1, Text.isNumeral segment = true := by
  induction s with
  | nil => exact ⟨by simp [readSegments], by simp [readSegments]⟩
  | cons c s ih =>
    obtain ⟨hdigits, hlater⟩ := ih
    rw [readSegments]
    split
    · rename_i hc
      exact ⟨List.forall_mem_cons.mpr ⟨hc, hdigits⟩, hlater⟩
    · split
      · rename_i hdot
        have hne := readSegments_ne_nil (Bool.and_eq_true_iff.mp hdot).2
        have hsegment := isNumeral_iff.mpr ⟨hne, hdigits⟩
        exact ⟨by simp, List.forall_mem_cons.mpr ⟨hsegment, hlater⟩⟩
      · exact ⟨by simp, by simp⟩

theorem isNumeral_of_mem_splitCore {s segment : List Char} (h : segment ∈ (splitCore s).1) :
    Text.isNumeral segment = true := by
  obtain ⟨hdigits, hlater⟩ := readSegments_numerals s
  rw [splitCore] at h
  split at h
  · rename_i hs
    rcases List.mem_cons.mp h with rfl | h
    · exact isNumeral_iff.mpr ⟨readSegments_ne_nil hs, hdigits⟩
    · exact hlater segment h
  · exact absurd h List.not_mem_nil

theorem isNumeral_of_mem_core {raw segment : List Char} (h : segment ∈ (ofChars raw).core) :
    Text.isNumeral segment = true := by
  rw [ofChars] at h
  split at h
  · exact isNumeral_of_mem_splitCore h
  · exact absurd h List.not_mem_nil

/-- A core holds nothing but digits and dots. -/
theorem mem_splitCore {s : List Char} {c : Char} (hc : c ∈ joinSegments (splitCore s).1) :
    c.isDigit = true ∨ c = '.' := by
  rcases mem_joinSegments hc with hdot | ⟨segment, hsegment, hc⟩
  · exact .inr hdot
  · exact .inl ((isNumeral_iff.mp (isNumeral_of_mem_splitCore hsegment)).2 c hc)

/-! ## Cores in front of a text -/

/-- A core in front of a text that starts with no digit is read, and after it the segments that the
text goes on with. -/
theorem splitCore_joinSegments_append {core : List (List Char)} {rest : List Char}
    (hne : core ≠ []) (hcore : ∀ s ∈ core, Text.isNumeral s = true)
    (hrest : (readSegments rest).1 = []) :
    (splitCore (joinSegments core ++ rest)).1 = core ++ (readSegments rest).2.1 := by
  obtain ⟨s, later, rfl⟩ := List.exists_cons_of_ne_nil hne
  obtain ⟨hs, hlater⟩ := List.forall_mem_cons.mp hcore
  rw [splitCore, if_pos (head_digit_of_joinSegments hs), readSegments_joinSegments hs hlater hrest]
  rfl

/-- A text that does not continue a core is not read as a part of it. -/
theorem readSegments_of_append {rest : List Char} (hrest : EndsCore rest) (s : List Char) :
    readSegments (s ++ rest) =
      ((readSegments s).1, (readSegments s).2.1, (readSegments s).2.2 ++ rest) := by
  induction s with
  | nil => exact readSegments_of_endsCore hrest
  | cons c s ih =>
    have hhead : ((s ++ rest).head?.map Char.isDigit).getD false =
        (s.head?.map Char.isDigit).getD false := by
      cases s with
      | cons d s => rfl
      | nil =>
        cases rest with
        | nil => rfl
        | cons d rest => exact hrest.1
    rw [List.cons_append, readSegments, readSegments, ih, hhead]
    split
    · rfl
    · split <;> rfl

theorem splitCore_of_append {rest : List Char} (hrest : EndsCore rest) (s : List Char) :
    (splitCore (s ++ rest)).1 = (splitCore s).1 := by
  have hread := readSegments_of_append hrest s
  cases s with
  | nil =>
    cases rest with
    | nil => rfl
    | cons c rest =>
      have hc : c.isDigit = false := hrest.1
      simp [splitCore, hc]
  | cons c s =>
    rw [List.cons_append] at hread ⊢
    rw [splitCore, splitCore, hread]
    cases hc : c.isDigit with
    | false => simp [hc]
    | true => simp [hc]

theorem IsMarker.endsCore {m : List Char} (hm : IsMarker m) : EndsCore m := by
  obtain ⟨word, rfl, _⟩ := hm.eq_cons
  exact ⟨rfl, fun hdot => absurd hdot (by decide)⟩

/-- The snapshot marker has no part in the core. -/
theorem core_ofChars_of_isVersionChar {raw : List Char}
    (hraw : ∀ c ∈ raw, isVersionChar c = true) : (ofChars raw).core = (splitCore raw).1 := by
  rw [ofChars, if_pos (List.all_eq_true.mpr hraw)]
  have hbody := splitSnapshot_append raw
  dsimp only
  cases hmarker : (splitSnapshot raw).2 with
  | none =>
    rw [hmarker, Option.getD_none, List.append_nil] at hbody
    rw [hbody]
  | some m =>
    have hm : IsMarker m := isMarker_splitSnapshot hmarker
    rw [hmarker, Option.getD_some] at hbody
    have hcut := splitCore_of_append hm.endsCore (splitSnapshot raw).1
    rw [hbody] at hcut
    exact hcut.symm

end BuildAlign.Version
