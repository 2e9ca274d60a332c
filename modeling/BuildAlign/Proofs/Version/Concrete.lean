import BuildAlign.Proofs.Reactor.Reference
import BuildAlign.Proofs.Version.OsgiReading
import BuildAlign.Proofs.Version.RoundTrip
import BuildAlign.Proofs.Version.SuffixParts

/-!
Versions without property references. Only the qualifier of a version can hold the characters that
open a reference, and whatever is attached to it starts with a separator. So a version that is made
of texts without references is written without one, in either form.
-/

namespace BuildAlign

namespace Text

/-- Two characters that follow each other in a text stand in one of its parts, or on both sides of
the cut. -/
theorem pair_infix_append {a b : Char} {s t : List Char} (h : [a, b] <:+: s ++ t) :
    [a, b] <:+: s ∨ [a, b] <:+: t ∨ (s.getLast? = some a ∧ t.head? = some b) := by
  induction s with
  | nil => exact .inr (.inl h)
  | cons c s ih =>
    rw [List.cons_append, List.infix_cons_iff] at h
    rcases h with hstart | hlater
    · obtain ⟨rfl, hnext⟩ := List.cons_prefix_cons.mp hstart
      cases s with
      | nil =>
        obtain ⟨rest, rfl⟩ := hnext
        exact .inr (.inr ⟨rfl, rfl⟩)
      | cons d s =>
        obtain ⟨rfl, -⟩ := List.cons_prefix_cons.mp hnext
        exact .inl ⟨[], s, rfl⟩
    · rcases ih hlater with hs | ht | ⟨hlast, hhead⟩
      · exact .inl (hs.trans (List.suffix_cons c s).isInfix)
      · exact .inr (.inl ht)
      · refine .inr (.inr ⟨?_, hhead⟩)
        rw [List.getLast?_cons, hlast]
        rfl

end Text

namespace Template

variable {s t : List Char}

theorem not_opening_of_dollar (hs : '$' ∉ s) : ¬ opening <:+: s :=
  fun h => hs (h.subset (by simp [opening]))

theorem not_opening_append (hs : ¬ opening <:+: s) (ht : ¬ opening <:+: t)
    (hcut : s.getLast? = some '$' → t.head? ≠ some '\x7b') : ¬ opening <:+: s ++ t := by
  intro h
  rcases Text.pair_infix_append h with h | h | ⟨hlast, hhead⟩
  · exact hs h
  · exact ht h
  · exact hcut hlast hhead

/-- Text behind that starts with a separator adds no reference. -/
theorem not_opening_append_of_brace (hs : ¬ opening <:+: s) (ht : '\x7b' ∉ t) :
    ¬ opening <:+: s ++ t := by
  refine not_opening_append hs (fun h => ht (h.subset (by simp [opening]))) fun _ hhead => ?_
  exact ht (List.mem_of_head? hhead)

theorem not_opening_append_of_dollar (hs : '$' ∉ s) (ht : ¬ opening <:+: t) :
    ¬ opening <:+: s ++ t := by
  refine not_opening_append (not_opening_of_dollar hs) ht fun hlast => ?_
  exact absurd (List.mem_of_getLast? hlast) hs

end Template

namespace Version

open Template (opening not_opening_append not_opening_append_of_brace not_opening_append_of_dollar)

/-- The parts of a version that are neither letters nor digits nor separators are all in the
qualifier, and no reference is opened there. -/
structure Concrete (v : Version) : Prop where
  core : ∀ segment ∈ v.core, ∀ c ∈ segment, c.isDigit = true ∨ c = '.'
  separator : ∀ c ∈ v.separator, isSeparator c = true
  qualifier : ¬ opening <:+: v.qualifier
  build : ∀ b ∈ v.build, isSeparator b.separator = true
  snapshot : ∀ m ∈ v.snapshot, IsMarker m

/-! ## Characters of the other parts -/

theorem mem_joinSegments_of_mem {core : List (List Char)} {segment : List Char}
    (hsegment : segment ∈ core) {c : Char} (hc : c ∈ segment) : c ∈ joinSegments core := by
  induction core with
  | nil => exact absurd hsegment List.not_mem_nil
  | cons first later ih =>
    cases later with
    | nil =>
      obtain rfl := List.mem_singleton.mp hsegment
      exact hc
    | cons second later =>
      rw [joinSegments_cons_cons, List.mem_append, List.mem_cons]
      rcases List.mem_cons.mp hsegment with rfl | hlater
      · exact .inl hc
      · exact .inr (.inr (ih hlater))

theorem dollar_not_mem_joinSegments {core : List (List Char)}
    (hcore : ∀ segment ∈ core, ∀ c ∈ segment, c.isDigit = true ∨ c = '.') :
    '$' ∉ joinSegments core := by
  intro hc
  rcases mem_joinSegments hc with hdot | ⟨segment, hsegment, hc⟩
  · exact absurd hdot (by decide)
  · exact absurd (hcore segment hsegment _ hc) (by decide)

theorem brace_not_mem_build {b : Build} (hb : isSeparator b.separator = true) :
    '\x7b' ∉ b.chars := by
  intro hc
  rcases List.mem_cons.mp hc with heq | hc
  · rw [← heq] at hb
    exact absurd hb (by decide)
  · exact absurd (b.isDigit_of_mem_digits hc) (by decide)

theorem IsMarker.brace_not_mem {m : List Char} (hm : IsMarker m) : '\x7b' ∉ m := by
  obtain ⟨word, rfl, _, hword, _⟩ := hm.eq_cons
  intro hc
  rcases List.mem_cons.mp hc with heq | hc
  · exact absurd heq (by decide)
  · exact absurd (hword _ hc) (by decide)

/-! ## The parts that are read -/

theorem mem_core_parse {raw : String} {c : Char} (hc : c ∈ joinSegments (parse raw).core) :
    c.isDigit = true ∨ c = '.' := by
  unfold parse ofChars at hc
  split at hc
  · exact mem_splitCore hc
  · exact absurd hc List.not_mem_nil

theorem isSeparator_separator_parse {raw : String} {c : Char} (hc : c ∈ (parse raw).separator) :
    isSeparator c = true := by
  unfold parse ofChars at hc
  split at hc
  · dsimp only at hc
    unfold splitSeparator at hc
    split at hc
    · cases hc
    · split at hc
      · rename_i hsep
        obtain rfl := Option.some.inj hc
        exact hsep
      · cases hc
  · cases hc

theorem build_splitBuild {s : List Char} {b : Build} (hb : b ∈ (splitBuild s).2) :
    isSeparator b.separator = true := by
  unfold splitBuild at hb
  split at hb
  split at hb
  · split at hb
    · rename_i hsep
      obtain rfl := Option.some.inj hb
      rcases hsep with rfl | rfl <;> rfl
    · exact absurd hb nofun
  · exact absurd hb nofun

theorem isSeparator_build_parse {raw : String} {b : Build} (hb : b ∈ (parse raw).build) :
    isSeparator b.separator = true := by
  unfold parse ofChars at hb
  split at hb
  · exact build_splitBuild hb
  · cases hb

theorem isMarker_snapshot_parse {raw : String} {m : List Char} (hm : m ∈ (parse raw).snapshot) :
    IsMarker m := by
  unfold parse ofChars at hm
  split at hm
  · exact isMarker_splitSnapshot hm
  · cases hm

namespace Concrete

variable {v : Version}

theorem not_opening_chars (hv : v.Concrete) : ¬ opening <:+: v.chars := by
  have hfront : '$' ∉ joinSegments v.core ++ v.separator.toList := by
    rw [List.mem_append, not_or]
    refine ⟨dollar_not_mem_joinSegments hv.core, fun hc => ?_⟩
    exact absurd (hv.separator _ (Option.mem_toList.mp hc)) (by decide)
  have hbuild : '\x7b' ∉ (v.build.map Build.chars).getD [] := by
    cases hb : v.build with
    | none => exact List.not_mem_nil
    | some b => exact brace_not_mem_build (hv.build b hb)
  have hsnapshot : '\x7b' ∉ v.snapshot.getD [] := by
    cases hm : v.snapshot with
    | none => exact List.not_mem_nil
    | some m => exact (hv.snapshot m hm).brace_not_mem
  rw [Version.chars]
  refine not_opening_append_of_brace (not_opening_append_of_brace ?_ hbuild) hsnapshot
  exact not_opening_append_of_dollar hfront hv.qualifier

/-- The OSGi form of a version with a core has only letters, digits, dots, dashes and underscores.
-/
theorem dollar_not_mem_osgiChars (hv : v.Concrete) (hcore : v.core ≠ []) : '$' ∉ v.osgiChars := by
  have hkept : ∀ segment ∈ v.core.take 3, ∀ c ∈ segment, c.isDigit = true ∨ c = '.' :=
    fun segment hsegment => hv.core segment (List.mem_of_mem_take hsegment)
  have hfilled : ∀ segment ∈ v.core.take 3 ++ List.replicate (3 - (v.core.take 3).length) ['0'],
      ∀ c ∈ segment, c.isDigit = true ∨ c = '.' := by
    intro segment hsegment c hc
    rcases List.mem_append.mp hsegment with hsegment | hsegment
    · exact hkept segment hsegment c hc
    · rw [(List.mem_replicate.mp hsegment).2, List.mem_singleton] at hc
      exact .inl (hc ▸ rfl)
  rw [osgiChars, if_neg hcore, osgiOf]
  split
  · exact dollar_not_mem_joinSegments hkept
  · rw [List.mem_append, List.mem_cons, not_or, not_or]
    refine ⟨dollar_not_mem_joinSegments hfilled, by decide, fun hc => ?_⟩
    obtain ⟨d, _, hd⟩ := List.mem_map.mp hc
    have hcases := osgiChar_cases d
    rw [hd] at hcases
    exact absurd hcases (by decide)

theorem hasReference_renderAs (hv : v.Concrete) (osgi : Bool) :
    Template.hasReference (v.renderAs osgi) = false := by
  rw [Template.hasReference_eq_false_iff, renderAs]
  split
  · rw [renderOsgi, String.toList_ofList]
    by_cases hcore : v.core = []
    · rw [osgiChars, if_pos hcore]
      exact hv.not_opening_chars
    · exact Template.not_opening_of_dollar (hv.dollar_not_mem_osgiChars hcore)
  · rw [render, String.toList_ofList]
    exact hv.not_opening_chars

/-! ## Reading -/

/-- A version read from a text without references has none in any of its parts. -/
theorem parse {raw : String} (hraw : Template.hasReference raw = false) :
    (Version.parse raw).Concrete := by
  refine ⟨fun segment hsegment c hc => ?_, fun _ => isSeparator_separator_parse, ?_,
    fun _ => isSeparator_build_parse, fun _ => isMarker_snapshot_parse⟩
  · exact mem_core_parse (mem_joinSegments_of_mem hsegment hc)
  · have hwhole : ¬ opening <:+: (Version.parse raw).chars := by
      rw [Version.parse, chars_ofChars]
      exact Template.hasReference_eq_false_iff.mp hraw
    intro h
    apply hwhole
    refine h.trans ?_
    rw [Version.chars]
    exact ⟨joinSegments (Version.parse raw).core ++ (Version.parse raw).separator.toList,
      ((Version.parse raw).build.map Build.chars).getD [] ++ (Version.parse raw).snapshot.getD [],
      by simp only [List.append_assoc]⟩

/-! ## Changing -/

theorem setBuild (hv : v.Concrete) (n : Nat) : (v.setBuild n).Concrete := by
  refine ⟨hv.core, hv.separator, hv.qualifier, ?_, hv.snapshot⟩
  rintro b hb
  obtain rfl := Option.some.inj hb
  cases hbuild : v.build with
  | none => rfl
  | some b => exact hv.build b hbuild

theorem setSnapshot (hv : v.Concrete) : (v.setSnapshot false).Concrete :=
  ⟨hv.core, hv.separator, hv.qualifier, hv.build, nofun⟩

theorem withBuild (hv : v.Concrete) {build : Option Build}
    (hbuild : ∀ b ∈ build, isSeparator b.separator = true) :
    ({ v with build } : Version).Concrete :=
  ⟨hv.core, hv.separator, hv.qualifier, hbuild, hv.snapshot⟩

/-- Folding moves digits and a separator only. -/
theorem foldBuild (hv : v.Concrete) : v.foldBuild.Concrete := by
  rw [Version.foldBuild]
  cases hbuild : v.build with
  | none => exact hv
  | some b =>
    dsimp only
    have hb := hv.build b hbuild
    split
    · refine ⟨hv.core, ?_, ?_, nofun, hv.snapshot⟩
      · rintro c hc
        obtain rfl := Option.some.inj hc
        exact hb
      · exact Template.not_opening_of_dollar fun hc =>
          absurd (b.isDigit_of_mem_digits hc) (by decide)
    · refine ⟨hv.core, hv.separator, ?_, nofun, hv.snapshot⟩
      exact not_opening_append_of_brace hv.qualifier (brace_not_mem_build hb)

theorem insertionSeparator_mem {c : Char} (hc : c ∈ v.insertionSeparator) :
    c = '.' ∨ c = '-' := by
  have hafter : ∀ segment : List Char,
      (if Text.isNumeral segment then '.' else '-') = '.' ∨
        (if Text.isNumeral segment then '.' else '-') = '-' := by
    intro segment
    split
    · exact .inl rfl
    · exact .inr rfl
  unfold insertionSeparator at hc
  dsimp only at hc
  split at hc
  · obtain ⟨segment, _, rfl⟩ := Option.map_eq_some_iff.mp hc
    exact hafter segment
  · split at hc
    · exact absurd hc nofun
    · obtain rfl := Option.some.inj hc
      exact hafter _

/-- A qualifier that gets no separator ends with one already. -/
theorem getLast?_of_insertionSeparator (hq : v.qualifier ≠ [])
    (hnone : v.insertionSeparator = none) :
    v.qualifier.getLast? ≠ some '$' := by
  unfold insertionSeparator at hnone
  dsimp only at hnone
  rw [if_neg hq] at hnone
  split at hnone
  · rename_i hrun
    intro hlast
    have hspan := Text.spanEnd_append (fun c => !isSeparator c) v.qualifier
    rw [hrun, List.append_nil] at hspan
    rw [← hspan] at hlast
    exact absurd (Text.getLast?_spanEnd hlast) (by decide)
  · exact absurd hnone nofun

/-- No reference arises when a label without references is appended: the characters that open one do
not form across the joint. -/
theorem appendLabel (hv : v.Concrete) {label : List Char} (hlabel : ¬ opening <:+: label) :
    (v.appendLabel label).Concrete := by
  rw [Version.appendLabel]
  split
  · refine ⟨hv.core, fun c hc => ?_, hlabel, hv.build, hv.snapshot⟩
    rcases insertionSeparator_mem hc with rfl | rfl <;> rfl
  · rename_i hq
    refine ⟨hv.core, hv.separator, ?_, hv.build, hv.snapshot⟩
    dsimp only
    cases hsep : v.insertionSeparator with
    | none =>
      rw [Option.toList_none, List.append_nil]
      exact not_opening_append hv.qualifier hlabel fun hlast =>
        absurd hlast (getLast?_of_insertionSeparator hq hsep)
    | some c =>
      have hc := insertionSeparator_mem hsep
      refine not_opening_append (not_opening_append_of_brace hv.qualifier ?_) hlabel ?_
      · rw [Option.toList_some, List.mem_singleton]
        rintro rfl
        exact absurd hc (by decide)
      · rw [Option.toList_some, List.getLast?_concat]
        rintro hlast
        obtain rfl := Option.some.inj hlast
        exact absurd hc (by decide)

/-- The label of a suffix is a part of it, and its number is attached with a dash. -/
theorem splitSuffix_spec (suffix : List Char) :
    (splitSuffix suffix).1 <:+: suffix ∧
      ∀ b ∈ (splitSuffix suffix).2, isSeparator b.separator = true := by
  rcases splitSuffix_cases suffix with ⟨label, digits, n, hs, -, heq⟩ | heq | heq
  · rw [heq]
    constructor
    · have hprefix : label <+: Text.trim suffix := ⟨_, hs.symm⟩
      exact hprefix.isInfix.trans (Text.trim_infix suffix)
    · rintro b ⟨⟩
      rfl
  · rw [heq]
    refine ⟨List.nil_infix, fun b hb => ?_⟩
    obtain ⟨n, -, rfl⟩ := Option.map_eq_some_iff.mp hb
    rfl
  · rw [heq]
    exact ⟨Text.trim_infix suffix, nofun⟩

theorem isInfix_of_stripLabel? {qualifier label front : List Char}
    (h : stripLabel? qualifier label = some front) : front <:+: qualifier := by
  unfold stripLabel? at h
  split at h
  · obtain rfl := Option.some.inj h
    exact List.nil_infix
  · split at h
    · rename_i before hbefore
      split at h
      · split at h
        · obtain rfl := Option.some.inj h
          have hprefix : before <+: qualifier :=
            ⟨_, (Text.before?_eq_some_iff.mp hbefore).symm⟩
          exact (before.dropLast_prefix.trans hprefix).isInfix
        · exact absurd h nofun
      · exact absurd h nofun
    · exact absurd h nofun

/-- A suffix, label and number, brings no reference either. -/
theorem appendSuffix (hv : v.Concrete) {suffix : List Char} (hsuffix : ¬ opening <:+: suffix) :
    (v.appendSuffix suffix).Concrete := by
  obtain ⟨hpart, hbuild⟩ := splitSuffix_spec suffix
  have hkeep : ∀ b ∈ (splitSuffix suffix).2.or v.build, isSeparator b.separator = true := by
    intro b hb
    rcases Option.or_eq_some_iff.mp hb with hb | ⟨_, hb⟩
    · exact hbuild b hb
    · exact hv.build b hb
  cases hsplit : splitSuffix suffix with
  | mk label number =>
    rw [hsplit] at hpart hbuild hkeep
    by_cases hempty : label = []
    · subst hempty
      rw [appendSuffix_of_no_label v hsplit]
      exact hv.withBuild hkeep
    · have hlabel : ¬ opening <:+: label := fun h => hsuffix (h.trans hpart)
      rcases appendSuffix_cases v hsplit hempty with ⟨front, hstrip, heq⟩ | ⟨-, heq⟩
      · rw [heq]
        refine appendLabel ?_ hlabel
        refine ⟨hv.core, ?_, ?_, hkeep, hv.snapshot⟩
        · dsimp only
          split
          · exact nofun
          · exact hv.separator
        · exact fun h => hv.qualifier (h.trans (isInfix_of_stripLabel? hstrip))
      · rw [heq]
        exact (hv.foldBuild.withBuild hbuild).appendLabel hlabel

end Concrete

end Version

end BuildAlign
