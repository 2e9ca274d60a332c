import BuildAlign.Proofs.Alignment.Effect
import BuildAlign.Proofs.Alignment.KeptCore
import BuildAlign.Proofs.Version.Concrete

/-!
When a version may replace itself. The rebuild suffix is always cut off the candidate, but off the
present version only if the check is told to ignore it. So a version that ends with a rebuild suffix
is no replacement of itself, unless the suffix has no part in the comparison of versions. A suffix
by a label has a part in it, since the letters of the label are letters of the qualifier; only the
word of the snapshot marker is not. A declaration whose version may replace itself and is among the
overrides causes no violation.
-/

namespace BuildAlign

namespace Version

/-! ## Counting letters -/

def letters (s : List Char) : Nat :=
  s.countP Char.isAlpha

@[simp] theorem letters_append (s t : List Char) : letters (s ++ t) = letters s + letters t :=
  List.countP_append

theorem letters_cons_of_isSeparator {c : Char} (hc : isSeparator c = true) (s : List Char) :
    letters (c :: s) = letters s :=
  List.countP_cons_of_neg (by simp [isAlpha_of_isSeparator hc])

theorem letters_eq_zero {s : List Char} (hs : ∀ c ∈ s, c.isAlpha = false) : letters s = 0 :=
  List.countP_eq_zero.mpr fun c hc => by simp [hs c hc]

theorem letters_eq_length {s : List Char} (hs : ∀ c ∈ s, c.isAlpha = true) :
    letters s = s.length :=
  List.countP_eq_length.mpr hs

/-- Versions of one base have the same number of letters in their qualifiers. -/
theorem letters_of_base {v w : Version} (h : v.base = w.base) :
    letters v.qualifier = letters w.qualifier := by
  have hlabel : ∀ u : Version, letters u.base.label = letters u.qualifier := by
    intro u
    rw [base, letters, letters, List.countP_map]
    exact List.countP_congr fun c _ => by rw [Function.comp_apply, isAlpha_labelChar]
  rw [← hlabel v, ← hlabel w, h]

/-- The letters of a version are those of the qualifier and of the snapshot marker. -/
theorem letters_parse (raw : String) : letters raw.toList =
    letters (parse raw).qualifier + letters ((parse raw).snapshot.getD []) := by
  have hcore : letters (joinSegments (parse raw).core) = 0 := letters_eq_zero fun c hc => by
    rcases mem_core_parse hc with hdigit | rfl
    · exact isAlpha_of_isDigit hdigit
    · rfl
  have hseparator : letters (parse raw).separator.toList = 0 := letters_eq_zero fun c hc =>
    isAlpha_of_isSeparator (isSeparator_separator_parse (Option.mem_toList.mp hc))
  have hbuild : letters (((parse raw).build.map Build.chars).getD []) = 0 := by
    cases hb : (parse raw).build with
    | none => rfl
    | some b =>
      refine letters_eq_zero fun c hc => ?_
      rcases List.mem_cons.mp hc with rfl | hc
      · exact isAlpha_of_isSeparator (isSeparator_build_parse hb)
      · exact isAlpha_of_isDigit (Build.isDigit_of_mem_digits hc)
  calc letters raw.toList = letters (parse raw).chars := by rw [parse, chars_ofChars]
    _ = letters (parse raw).qualifier + letters ((parse raw).snapshot.getD []) := by
      simp [chars, hcore, hseparator, hbuild]

/-- The word behind the dash of a snapshot marker. -/
def IsMarkerWord (word : List Char) : Prop :=
  word.map Char.toUpper = snapshotMarker.tail

instance (word : List Char) : Decidable (IsMarkerWord word) :=
  inferInstanceAs (Decidable (_ = _))

theorem IsMarkerWord.length_eq {word : List Char} (h : IsMarkerWord word) : word.length = 8 := by
  simpa [snapshotMarker] using congrArg List.length h

/-- The letters of a snapshot marker are those of its word, with which the text ends. -/
theorem letters_snapshot (raw : String) : letters ((parse raw).snapshot.getD []) = 0 ∨
    letters ((parse raw).snapshot.getD []) = 8 ∧
      ∃ word, word <:+ raw.toList ∧ IsMarkerWord word ∧ ∀ c ∈ word, c.isAlpha = true := by
  cases hm : (parse raw).snapshot with
  | none => exact .inl rfl
  | some m =>
    right
    obtain ⟨word, rfl, _, hletters, hword⟩ := (isMarker_snapshot_parse hm).eq_cons
    refine ⟨?_, word, ?_, hword, hletters⟩
    · rw [Option.getD_some, letters_cons_of_isSeparator rfl, letters_eq_length hletters,
        IsMarkerWord.length_eq hword]
    · have hchars : raw.toList = (parse raw).chars := by rw [parse, chars_ofChars]
      rw [hchars, chars, hm, Option.getD_some]
      exact (List.suffix_cons '-' word).trans (List.suffix_append _ _)

end Version

open Version

/-! ## Suffixes that have no part in the comparison -/

namespace RebuildSuffix

theorem letters_isLabelled {label s : List Char} (h : isLabelled label s = true) :
    letters s = letters label := by
  obtain ⟨c, tail, hc, htail, rfl⟩ := isLabelled_iff.mp h
  have hzero : letters tail = 0 := letters_eq_zero fun d hd => isAlpha_of_mem_buildTail htail hd
  rw [letters_cons_of_isSeparator hc, letters_append, hzero, Nat.add_zero]

/-- A word of letters and a suffix by a label end one text. If the label has as many letters as the
word, it is the word: no letter is left to stand in front of the word, and a label starts with one.
-/
theorem eq_word_of_isLabelled {label s text word : List Char}
    (hlabel : StrictPolicy.StartsWithLetter label) (hs : isLabelled label s = true)
    (hsuffix : s <:+ text) (hword : word <:+ text) (hletters : ∀ c ∈ word, c.isAlpha = true)
    (hcount : letters label = word.length) : label = word := by
  have hcounts := (letters_isLabelled hs).trans hcount
  obtain ⟨c, tail, hc, htail, rfl⟩ := isLabelled_iff.mp hs
  rw [letters_cons_of_isSeparator hc] at hcounts
  have hends : label ++ tail = word := by
    rcases List.suffix_or_suffix_of_suffix hword ((List.suffix_cons c _).trans hsuffix) with
      ⟨front, hfront⟩ | hlonger
    · have hzero : letters front = 0 := by
        rw [← hfront, letters_append, letters_eq_length hletters] at hcounts
        omega
      obtain ⟨a, later, rfl, ha⟩ := hlabel
      cases front with
      | nil => exact hfront.symm
      | cons d front =>
        obtain ⟨rfl, _⟩ := List.cons.inj hfront
        exact absurd ha (List.countP_eq_zero.mp hzero d (List.mem_cons_self ..))
    · exact hlonger.eq_of_length_le (hcounts ▸ List.countP_le_length)
  have hnil : tail = [] := by
    rw [List.eq_nil_iff_forall_not_mem]
    intro d hd
    have halpha := hletters d (hends ▸ List.mem_append_right _ hd)
    rw [isAlpha_of_mem_buildTail htail hd] at halpha
    cases halpha
  rwa [hnil, List.append_nil] at hends

/-- A suffix by a label is seen when versions are compared, unless it is the snapshot marker. -/
theorem isMarkerWord_of_base {label s : List Char} {version front : String}
    (hlabel : StrictPolicy.StartsWithLetter label) (hs : isLabelled label s = true)
    (hcut : version.toList = front.toList ++ s)
    (hbase : (parse version).base = (parse front).base) : IsMarkerWord label := by
  have hpositive : 0 < letters label := by
    obtain ⟨a, later, rfl, ha⟩ := hlabel
    rw [letters, List.countP_cons_of_pos ha]
    exact Nat.succ_pos _
  -- the letters of the label are among those of the marker of the version
  have hletters : letters ((parse version).snapshot.getD []) =
      letters ((parse front).snapshot.getD []) + letters label := by
    have hsum := letters_parse version
    rw [hcut, letters_append, letters_isLabelled hs, letters_parse front,
      letters_of_base hbase] at hsum
    omega
  rcases letters_snapshot version with hnone | ⟨hmarked, word, hword, hmarker, halpha⟩
  · omega
  · have hcount : letters label = word.length := by
      rw [hmarker.length_eq]
      rcases letters_snapshot front with hnone | ⟨hmarked', _⟩ <;> omega
    rw [eq_word_of_isLabelled hlabel hs (hcut ▸ List.suffix_append _ _) hword halpha hcount]
    exact hmarker

end RebuildSuffix

/-! ## The check of a version against itself -/

namespace StrictPolicy

variable {p : StrictPolicy}

/-- A version is compared with what is left of it, unless its suffix is ignored. -/
theorem check_self_iff {version : String} (hversion : Text.isBlank version = false) :
    p.check version version = true ↔
      p.ignoreSuffix = true ∨ agree version (p.strip version) = true := by
  rw [check, hversion]
  cases p.ignoreSuffix with
  | false => simp
  | true => simp [agree_iff]

/-- Cutting a suffix by a label off makes a difference, unless it is the snapshot marker. -/
theorem agree_strip_iff {label : List Char} (hp : p.suffix = some (.label label))
    (hlabel : StartsWithLetter label) (hword : ¬ IsMarkerWord label) (version : String) :
    agree version (p.strip version) = true ↔ p.strip version = version := by
  refine ⟨fun h => ?_, fun h => agree_iff.mpr (.inl h.symm)⟩
  rcases agree_iff.mp h with hsame | ⟨_, hbase, _⟩
  · exact hsame.symm
  · rcases p.strip_cases hp version with hsame | ⟨s, hs, _, hcut⟩
    · exact hsame
    · exact absurd (RebuildSuffix.isMarkerWord_of_base hlabel hs hcut hbase) hword

theorem choose?_isSome {present : String} {candidates : List String}
    (hmem : present ∈ candidates) (hcheck : p.enabled = true → p.check present present = true) :
    (p.choose? present candidates).isSome = true := by
  rw [choose?]
  split
  · rename_i henabled
    exact List.find?_isSome.mpr ⟨present, hmem, hcheck henabled⟩
  · exact List.isSome_head?.mpr (List.ne_nil_of_mem hmem)

end StrictPolicy

/-! ## Declarations without violations -/

namespace Evaluator

/-- An evaluation that neither fails with a strict violation nor skips the declaration for one, nor
adds a warning of one to the report. -/
def WithoutViolation (report : Report) : Evaluated → Prop :=
  Satisfies
    (fun x => x.1.outcome ≠ .skipped .strictViolation ∧
      report.WarnsOnly (·.kind ≠ .strictViolation) x.2.report)
    fun e => ∀ x, e ≠ Violation.error x

variable {e : Evaluator} {r : Reactor} {s : Evaluation} {site : Site}

theorem outcome_literal (old target : String) :
    (e.literal old target).outcome = .skipped .alreadyAligned ∨
      (e.literal old target).outcome = .literalUpdated := by
  rw [literal]
  split
  · exact .inl rfl
  · exact .inr rfl

/-- The evaluations that end at once with another outcome. -/
theorem WithoutViolation.done {report : Report} {o : Outcome} {s' : Evaluation}
    (ho : o ≠ .skipped .strictViolation)
    (hreport : report.WarnsOnly (·.kind ≠ .strictViolation) s'.report) :
    WithoutViolation report (.ok (.done o, s')) :=
  ⟨ho, hreport⟩

/-- A warning of another kind. -/
theorem WithoutViolation.warn {kind : WarningKind} {o : Outcome} (module : Option Artifact)
    (message : String) (ho : o ≠ .skipped .strictViolation) (hkind : kind ≠ .strictViolation) :
    WithoutViolation s.report
      (.ok (.done o, { s with report := s.report.warn kind module message })) :=
  ⟨ho, .warn hkind⟩

/-- A declaration that is moved causes no violation. -/
theorem withoutViolation_move (old target : String) (explicit : Bool) :
    WithoutViolation s.report (e.move r s site old target explicit) := by
  rw [move]
  split
  · rw [demand]
    split
    split
    · exact .done (by decide) (.of_eq rfl)
    · dsimp only
      split
      · exact .done (by decide) (.of_eq rfl)
      · split
        · exact fun _ h => AlignError.noConfusion h
        · exact .warn _ _ (by decide) (by decide)
  · refine ⟨?_, .of_eq rfl⟩
    rcases e.outcome_literal old target with haligned | hupdated
    · rw [haligned]
      decide
    · rw [hupdated]
      decide

variable {entries : List OverrideEntry} {rules : ExplicitRules}

/-- There is a violation only where no override version is chosen. -/
theorem withoutViolation_evaluate
    (h : ∀ old, site.version? = some old →
      (e.strict.choose? (r.resolve site.module old) (candidateVersions entries)).isSome = true) :
    WithoutViolation s.report (e.evaluate r s site entries rules) := by
  rw [evaluate]
  split
  · exact .warn _ _ (by decide) (by decide)
  · rename_i first others hcandidates
    split
    · exact .done (by decide) (.of_eq rfl)
    · rename_i old hversion
      split
      · exact .done (by decide) (.of_eq rfl)
      · split
        · exact .done (by decide) (.of_eq rfl)
        · dsimp only
          split
          · exact withoutViolation_move old _ false
          · rename_i hnone
            have hsome := h old hversion
            rw [hcandidates, hnone] at hsome
            cases hsome

end Evaluator

namespace StrictPolicy

/-- A version may replace itself if the check ignores the rebuild suffix of the present version, or
if the version ends with none, or if it agrees with what is left of it. With a label that starts
with a letter the latter never happens, unless the label is the word of the snapshot marker. An
evaluation causes no violation if the resolved version of the declaration is among the override
versions and may replace itself. -/
theorem may_replace_itself {p : StrictPolicy} {version : String}
    (hversion : Text.isBlank version = false) :
    (p.check version version = true ↔
      p.ignoreSuffix = true ∨ p.strip version = version ∨
        (parse version).core ≠ [] ∧ (parse version).base = (parse (p.strip version)).base ∧
          (parse version).buildNumber = (parse (p.strip version)).buildNumber) ∧
    (∀ label, p.suffix = some (.label label) → StartsWithLetter label → ¬ IsMarkerWord label →
      (p.check version version = true ↔ p.ignoreSuffix = true ∨ p.strip version = version)) ∧
    ((p.enabled = true → p.check version version = true) →
      ∀ (e : Evaluator) (r : Reactor) (s : Evaluation) (site : Site)
        (entries : List OverrideEntry) (rules : ExplicitRules) (old : String),
        e.strict = p → site.version? = some old → r.resolve site.module old = version →
        version ∈ candidateVersions entries →
        Evaluator.WithoutViolation s.report (e.evaluate r s site entries rules)) := by
  refine ⟨?_, ?_, ?_⟩
  · rw [check_self_iff hversion, agree_iff, @eq_comm _ version]
  · intro label hp hlabel hword
    rw [check_self_iff hversion, agree_strip_iff hp hlabel hword]
  · rintro hcheck e r s site entries rules old rfl hold rfl hmem
    refine Evaluator.withoutViolation_evaluate fun old' hold' => ?_
    obtain rfl : old = old' := Option.some.inj (hold.symm.trans hold')
    exact choose?_isSome hmem hcheck

/-- One module that declares a library twice: at a rebuilt version, and at a snapshot of it. -/
def rebuiltLibraries : Reactor where
  modules := [
    { group := some "org.a", name := "app", version := some "1",
      body := {
        properties := Table.ofList [("lib", "1.2.redhat-1-SNAPSHOT")]
        dependencies := [
          { group := "org.b", name := "lib", version := some "1.2.redhat-1" },
          { group := "org.b", name := "lib", version := some "$\x7blib\x7d" }] } }]
  forest := Reactor.forest_of_checks (by simp) (by decide) (by decide)

def librarySite (index : Nat) (version : String) : Site :=
  Site.of rebuiltLibraries 0 { group := "org.a", name := "app" }
    { address := { scope := .main, collection := .dependencies, index }
      group := "org.b"
      name := "lib"
      version := some version
      kind := defaultKind
      classifier := none }

def libraryEntries (versions : List String) : List OverrideEntry :=
  versions.map fun version =>
    { target := Artifact.at { group := "org.b", name := "lib" } version, source := .bom }

def redhatEvaluator : Evaluator where
  strict := StrictPolicy.ofLabel "redhat" true
  failOnPropertyClash := false

/-- The suffix of a snapshot is not at the end, so the snapshot may replace itself. -/
theorem may_replace_itself_snapshot :
    redhatEvaluator.strict.check "1.2.redhat-1-SNAPSHOT" "1.2.redhat-1-SNAPSHOT" = true ∧
      Evaluator.WithoutViolation {}
        (redhatEvaluator.evaluate rebuiltLibraries {} (librarySite 1 "$\x7blib\x7d")
          (libraryEntries ["2.0.redhat-1", "1.2.redhat-1-SNAPSHOT"]) {}) := by
  obtain ⟨_, hlabel, hevaluate⟩ :=
    @may_replace_itself redhatEvaluator.strict "1.2.redhat-1-SNAPSHOT" (by decide +kernel)
  have hcheck := (hlabel "redhat".toList rfl ⟨'r', ['e', 'd', 'h', 'a', 't'], by decide, by decide⟩
    (by decide)).mpr (.inr (by decide +kernel))
  exact ⟨hcheck, hevaluate (fun _ => hcheck) redhatEvaluator rebuiltLibraries {}
    (librarySite 1 "$\x7blib\x7d") (libraryEntries ["2.0.redhat-1", "1.2.redhat-1-SNAPSHOT"]) {}
    "$\x7blib\x7d" rfl (by decide +kernel) (by decide +kernel) (by decide +kernel)⟩

/-- A rebuilt version may not replace itself, and an override with the version that is declared
already is a violation. -/
theorem rebuilt_not_itself :
    Text.isBlank "1.2.redhat-1" = false ∧
      redhatEvaluator.strict.check "1.2.redhat-1" "1.2.redhat-1" = false ∧
      (librarySite 0 "1.2.redhat-1").declaration ∈ (rebuiltLibraries.module 0).declarations ∧
      rebuiltLibraries.resolve 0 "1.2.redhat-1" = "1.2.redhat-1" ∧
      candidateVersions (libraryEntries ["1.2.redhat-1"]) = ["1.2.redhat-1"] ∧
      redhatEvaluator.evaluate rebuiltLibraries {} (librarySite 0 "1.2.redhat-1")
          (libraryEntries ["1.2.redhat-1"]) {} =
        .error (.strictViolation { group := "org.a", name := "app" }
          { group := "org.b", name := "lib" } .dependency "1.2.redhat-1" "1.2.redhat-1") := by
  decide +kernel

/-- A number as label has no part in the comparison: what is cut off is a zero of the core. -/
example :
    (StrictPolicy.ofLabel "0" true).strip "1.2.0" = "1.2" ∧
      (StrictPolicy.ofLabel "0" true).check "1.2.0" "1.2.0" = true := by
  decide +kernel

end StrictPolicy

end BuildAlign
