import BuildAlign.Text.Blank
import BuildAlign.Text.Cut
import Mathlib.Data.List.DropRight

/-!
Where cuts fall. The trailing run of a class is determined by the character in front of it, so a
text has only one last separator; the first mark of one character is behind the part that does not
hold it, and what follows the first mark has no part in where it is found; a text without blank ends
is not changed by trimming, and any other one is cut to a part of it that holds all characters that
are not blank.
-/

namespace BuildAlign.Text

/-- The trailing run of a class starts after a character that is not in the class. -/
theorem spanEnd_of_append {p : Char → Bool} {front run : List Char}
    (hrun : ∀ c ∈ run, p c = true) (hfront : ∀ c, front.getLast? = some c → p c = false) :
    spanEnd p (front ++ run) = (front, run) := by
  induction front with
  | nil =>
    induction run with
    | nil => rfl
    | cons c run ih =>
      have htail := ih (fun d hd => hrun d (by simp [hd]))
      rw [List.nil_append] at htail
      simp [spanEnd, htail, hrun c (by simp)]
  | cons c front ih =>
    rw [List.cons_append, spanEnd]
    cases front with
    | nil =>
      have hc : p c = false := hfront c rfl
      have htail : spanEnd p run = ([], run) := ih (by simp)
      simp [htail, hc]
    | cons d front =>
      have htail := ih (fun e he => hfront e (by simpa using he))
      rw [htail]

/-- What stands in front of the trailing run does not end in the class. -/
theorem getLast?_spanEnd {p : Char → Bool} {s : List Char} {c : Char}
    (hc : (spanEnd p s).1.getLast? = some c) : p c = false := by
  induction s with
  | nil => simp [spanEnd] at hc
  | cons d s ih =>
    rw [spanEnd] at hc
    split at hc
    · rename_i run hrun
      split at hc
      · simp at hc
      · simp_all
    · rename_i front run hne hrun
      rw [hrun] at ih
      apply ih
      cases front with
      | nil => exact absurd rfl hne
      | cons e front => simpa using hc

/-- A text has only one last character of a class. -/
theorem last_unique {p : Char → Bool} {front front' rest rest' : List Char} {c c' : Char}
    (heq : front ++ c :: rest = front' ++ c' :: rest')
    (hc : p c = true) (hc' : p c' = true)
    (hrest : ∀ d ∈ rest, p d = false) (hrest' : ∀ d ∈ rest', p d = false) :
    front = front' ∧ c = c' ∧ rest = rest' := by
  have hspan : spanEnd (fun d => !p d) ((front ++ [c]) ++ rest) = (front ++ [c], rest) :=
    spanEnd_of_append (by simpa using hrest) (by simp [hc])
  have hspan' : spanEnd (fun d => !p d) ((front' ++ [c']) ++ rest') = (front' ++ [c'], rest') :=
    spanEnd_of_append (by simpa using hrest') (by simp [hc'])
  rw [List.append_assoc, List.singleton_append] at hspan hspan'
  rw [heq, hspan'] at hspan
  obtain ⟨hfront, hrest⟩ := Prod.mk.inj hspan
  obtain ⟨hinit, hlast⟩ := List.append_inj' hfront rfl
  exact ⟨hinit.symm, by simpa using hlast.symm, hrest.symm⟩

/-- A character that is not in the first part stands behind it. -/
theorem append_eq_of_not_mem {c : Char} {a b front rest : List Char}
    (heq : a ++ b = front ++ c :: rest) (ha : c ∉ a) :
    ∃ later, front = a ++ later ∧ b = later ++ c :: rest := by
  rcases List.append_eq_append_iff.mp heq with ⟨later, hfront, hb⟩ | ⟨later, hsplit, hrest⟩
  · exact ⟨later, hfront, hb⟩
  · cases later with
    | nil => exact ⟨[], by simpa using hsplit.symm, by simpa using hrest.symm⟩
    | cons d later =>
      obtain ⟨rfl, -⟩ := List.cons.inj hrest
      exact absurd (by simp [hsplit]) ha

theorem dropWhile_blank {s : List Char}
    (hs : ∀ c, s.head? = some c → isBlankChar c = false) : s.dropWhile isBlankChar = s := by
  cases s with
  | nil => rfl
  | cons c s => simp [hs c rfl]

/-- Trimming sees the two ends only. -/
theorem trim_of_ends {s : List Char} (hhead : ∀ c, s.head? = some c → isBlankChar c = false)
    (hlast : ∀ c, s.getLast? = some c → isBlankChar c = false) : trim s = s := by
  rw [trim, dropWhile_blank hhead, dropWhile_blank (by simpa using hlast), List.reverse_reverse]

theorem trim_eq_self {s : List Char} (hs : ∀ c ∈ s, isBlankChar c = false) : trim s = s :=
  trim_of_ends (fun c hc => hs c (List.mem_of_mem_head? hc))
    fun c hc => hs c (List.mem_of_getLast? hc)

theorem before?_eq_some_iff {mark s front : List Char} :
    before? mark s = some front ↔ s = front ++ mark := by
  rw [before?, Option.map_eq_some_iff]
  constructor
  · rintro ⟨rest, hafter, rfl⟩
    have hs := congrArg List.reverse (after?_eq_some_iff.mp hafter)
    simpa using hs
  · rintro rfl
    exact ⟨front.reverse, after?_eq_some_iff.mpr (by simp), List.reverse_reverse front⟩

theorem cutFirst?_append {mark : List Char} (hne : mark ≠ []) (s : List Char) :
    cutFirst? mark (mark ++ s) = some ([], s) := by
  obtain ⟨m, mark, rfl⟩ := List.exists_cons_of_ne_nil hne
  have hafter : after? (m :: mark) (m :: (mark ++ s)) = some s := after?_eq_some_iff.mpr rfl
  rw [List.cons_append, cutFirst?, hafter]

/-- A mark of one character cuts at the first place where the character stands. -/
theorem cutFirst?_of_not_mem {c : Char} {front : List Char} (hc : c ∉ front) (rest : List Char) :
    cutFirst? [c] (front ++ c :: rest) = some (front, rest) := by
  induction front with
  | nil => exact cutFirst?_append (List.cons_ne_nil c []) rest
  | cons d front ih =>
    obtain ⟨hne, hfront⟩ := List.ne_and_not_mem_of_not_mem_cons hc
    rw [List.cons_append, cutFirst?, after?, if_neg hne, ih hfront, Option.map_some]

/-- A mark is not looked for where its first character does not stand. -/
theorem cutFirst?_append_of_not_mem {c : Char} {mark text : List Char} (hc : c ∉ text)
    (s : List Char) :
    cutFirst? (c :: mark) (text ++ s) =
      (cutFirst? (c :: mark) s).map fun (front, rest) => (text ++ front, rest) := by
  induction text with
  | nil =>
    rw [List.nil_append]
    exact Option.map_id'.symm
  | cons d text ih =>
    obtain ⟨hne, htext⟩ := List.ne_and_not_mem_of_not_mem_cons hc
    rw [List.cons_append, cutFirst?, after?, if_neg hne, ih htext, Option.map_map]
    rfl

theorem cutLast?_eq_none {c : Char} {s : List Char} (hc : c ∉ s) : cutLast? c s = none := by
  induction s with
  | nil => rfl
  | cons d s ih =>
    obtain ⟨hne, hs⟩ := List.ne_and_not_mem_of_not_mem_cons hc
    rw [cutLast?, ih hs]
    exact if_neg hne.symm

/-- The last mark is the one that no other follows. -/
theorem cutLast?_of_not_mem {c : Char} {rest : List Char} (hc : c ∉ rest) (front : List Char) :
    cutLast? c (front ++ c :: rest) = some (front, rest) := by
  induction front with
  | nil =>
    rw [List.nil_append, cutLast?, cutLast?_eq_none hc]
    exact if_pos rfl
  | cons d front ih => rw [List.cons_append, cutLast?, ih]

/-- What follows the first mark has no part in where it is found. -/
theorem cutFirst?_replace {mark s front rest : List Char}
    (h : cutFirst? mark s = some (front, rest)) (rest' : List Char) :
    cutFirst? mark (front ++ mark ++ rest') = some (front, rest') := by
  have hempty : ∀ t, cutFirst? [] t = some ([], t) := by
    intro t
    cases t <;> rfl
  fun_induction cutFirst? mark s generalizing front with
  | case1 hmark =>
    obtain ⟨rfl, rfl⟩ := Prod.mk.inj (Option.some.inj h)
    rw [hmark]
    exact hempty rest'
  | case2 => cases h
  | case3 c s found hafter =>
    obtain ⟨rfl, rfl⟩ := Prod.mk.inj (Option.some.inj h)
    rw [List.nil_append]
    cases mark with
    | nil => exact hempty rest'
    | cons m mark => exact cutFirst?_append (List.cons_ne_nil m mark) rest'
  | case4 c s hnone ih =>
    obtain ⟨⟨front, rest⟩, hcut, heq⟩ := Option.map_eq_some_iff.mp h
    obtain ⟨rfl, rfl⟩ := Prod.mk.inj heq
    have hlater : after? mark (c :: (front ++ mark ++ rest')) = none := by
      rw [Option.eq_none_iff_forall_ne_some]
      intro t hafter
      have hmark : mark <+: c :: (front ++ mark ++ rest') :=
        ⟨t, (after?_eq_some_iff.mp hafter).symm⟩
      have hfront : c :: front ++ mark <+: c :: (front ++ mark ++ rest') := ⟨rest', rfl⟩
      have hprefix : mark <+: c :: front ++ mark := by
        refine List.prefix_of_prefix_length_le hmark hfront ?_
        rw [List.length_append]
        exact Nat.le_add_left ..
      obtain ⟨t', ht'⟩ := hprefix
      have hearlier : c :: s = mark ++ (t' ++ rest) := by
        rw [cutFirst?_eq_some hcut, ← List.append_assoc mark, ht']
        rfl
      cases (after?_eq_some_iff.mpr hearlier).symm.trans hnone
    rw [List.cons_append, List.cons_append, cutFirst?, hlater, ih hcut, Option.map_some]

theorem isSome_cutFirst?_append (front mark rest : List Char) :
    (cutFirst? mark (front ++ (mark ++ rest))).isSome = true := by
  induction front with
  | nil =>
    cases mark with
    | nil => cases rest <;> rfl
    | cons c mark =>
      rw [List.nil_append, cutFirst?_append (List.cons_ne_nil c mark)]
      rfl
  | cons c front ih =>
    rw [List.cons_append, cutFirst?]
    split
    · rfl
    · rw [Option.isSome_map]
      exact ih

theorem occurs_iff {mark s : List Char} : occurs mark s = true ↔ mark <:+: s := by
  constructor
  · intro h
    obtain ⟨⟨front, rest⟩, hcut⟩ := Option.isSome_iff_exists.mp h
    exact ⟨front, rest, (cutFirst?_eq_some hcut).symm⟩
  · rintro ⟨front, rest, rfl⟩
    rw [List.append_assoc]
    exact isSome_cutFirst?_append front mark rest

/-- What is left of a text by trimming is a part of it. -/
theorem trim_infix (s : List Char) : trim s <:+: s := by
  have hfront : (s.dropWhile isBlankChar) <:+ s := List.dropWhile_suffix _
  have hback : trim s <+: s.dropWhile isBlankChar := by
    have hreverse := List.dropWhile_suffix (l := (s.dropWhile isBlankChar).reverse) isBlankChar
    rwa [← List.reverse_prefix, List.reverse_reverse] at hreverse
  exact hback.isInfix.trans hfront.isInfix

theorem trim_trim (s : List Char) : trim (trim s) = trim s := by
  have hfront : (trim s).dropWhile isBlankChar = trim s := by
    -- what is left starts with the first character that is not blank, if anything is left
    obtain ⟨back, hback⟩ : trim s <+: s.dropWhile isBlankChar :=
      List.rdropWhile_prefix (p := isBlankChar) _
    cases htrim : trim s with
    | nil => rfl
    | cons c rest =>
      have hdropped := List.dropWhile_idempotent (p := isBlankChar) (l := s)
      rw [← hback, htrim, List.cons_append] at hdropped
      cases hc : isBlankChar c with
      | false => simp [hc]
      | true =>
        have hlength := (List.dropWhile_suffix (l := rest ++ back) isBlankChar).length_le
        rw [List.dropWhile_cons_of_pos hc] at hdropped
        rw [hdropped, List.length_cons] at hlength
        omega
  calc trim (trim s) = ((trim s).reverse.dropWhile isBlankChar).reverse := by rw [trim, hfront]
    _ = trim s := by rw [trim, List.reverse_reverse, List.dropWhile_idempotent]

theorem trimmed_trimmed (s : String) : trimmed (trimmed s) = trimmed s := by
  rw [trimmed, trimmed, String.toList_ofList, trim_trim]

theorem mem_trim {s : List Char} {c : Char} (hc : c ∈ s) (hblank : isBlankChar c = false) :
    c ∈ trim s := by
  have hdrop : ∀ s : List Char, c ∈ s → c ∈ s.dropWhile isBlankChar := by
    intro s hc
    rw [← List.takeWhile_append_dropWhile (p := isBlankChar) (l := s)] at hc
    rcases List.mem_append.mp hc with hc | hc
    · exact absurd (List.mem_takeWhile_imp hc) (by simp [hblank])
    · exact hc
  exact List.mem_reverse.mpr (hdrop _ (List.mem_reverse.mpr (hdrop _ hc)))

/-- What is left of a text does not end in a blank character. -/
theorem isBlankChar_getLast?_trim {s : List Char} {c : Char} (hc : (trim s).getLast? = some c) :
    isBlankChar c = false := by
  have hhead := List.head?_dropWhile_not isBlankChar (s.dropWhile isBlankChar).reverse
  rw [trim, List.getLast?_reverse] at hc
  rwa [hc] at hhead

/-- What is left of a text does not start with a blank character. -/
theorem isBlankChar_head?_trim {s : List Char} {c : Char} (hc : (trim s).head? = some c) :
    isBlankChar c = false := by
  obtain ⟨back, hback⟩ : trim s <+: s.dropWhile isBlankChar :=
    List.rdropWhile_prefix (p := isBlankChar) _
  have hhead := List.head?_dropWhile_not isBlankChar s
  rw [← hback, List.head?_append, hc] at hhead
  exact hhead

theorem isBlank_eq_false {s : String} :
    isBlank s = false ↔ ∃ c ∈ s.toList, isBlankChar c = false := by
  rw [← Bool.not_eq_true, isBlank_iff]
  push Not
  simp only [Bool.not_eq_true]

theorem trim_ne_nil {s : String} (h : isBlank s = false) : trim s.toList ≠ [] := by
  obtain ⟨c, hc, hblank⟩ := isBlank_eq_false.mp h
  exact List.ne_nil_of_mem (mem_trim hc hblank)

theorem isBlank_trimmed (s : String) : isBlank (trimmed s) = isBlank s := by
  rw [Bool.eq_iff_iff, isBlank_iff, isBlank_iff, trimmed, String.toList_ofList]
  constructor
  · intro h c hc
    by_contra hblank
    exact hblank (h c (mem_trim hc (by simpa using hblank)))
  · intro h c hc
    have hpart := trim_infix s.toList
    exact h c (hpart.subset hc)

/-- Nothing is left of a blank text. -/
theorem trimmed_of_isBlank {s : String} (h : isBlank s = true) : trimmed s = "" := by
  have hpart := trim_infix s.toList
  have hnil : trim s.toList = [] := by
    refine List.getLast?_eq_none_iff.mp (Option.eq_none_iff_forall_ne_some.mpr fun c hc => ?_)
    have hmem := hpart.subset (List.mem_of_getLast? hc)
    exact absurd (isBlank_iff.mp h c hmem) (by simp [isBlankChar_getLast?_trim hc])
  rw [trimmed, hnil]

theorem nonBlank?_eq_some {s version : String} (h : nonBlank? s = some version) :
    version = trimmed s ∧ isBlank s = false := by
  rw [nonBlank?] at h
  split at h
  · exact absurd h nofun
  · rename_i hblank
    exact ⟨(Option.some.inj h).symm, by simpa using hblank⟩

theorem isBlank_of_nonBlank? {s version : String} (h : nonBlank? s = some version) :
    isBlank version = false := by
  obtain ⟨rfl, hblank⟩ := nonBlank?_eq_some h
  rw [isBlank_trimmed, hblank]

end BuildAlign.Text
