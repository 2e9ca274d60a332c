import BuildAlign.Proofs.Version.Writable
import BuildAlign.Proofs.Versioning.Advance
import BuildAlign.Versioning.Changes

/-!
Which rebuilds abort the run. Rebuilding a version writes nothing but a build number that has to
make room for a label, and rebuilding a reactor also writes every version that comes out. A rebuild
that is not aborted gives the version, and the changes, that are computed without regard to writing.
-/

namespace BuildAlign

/-! ## Steps that may abort -/

section Steps

variable {α β σ : Type} {p : α → Prop}

/-- A list of steps is carried out if every step is. -/
theorem mapM_eq_some_iff {f : α → Option β} {g : α → β}
    (h : ∀ x y, f x = some y ↔ p x ∧ g x = y) {xs : List α} {ys : List β} :
    xs.mapM f = some ys ↔ (∀ x ∈ xs, p x) ∧ xs.map g = ys := by
  induction xs generalizing ys with
  | nil => simp
  | cons x xs ih =>
    simp only [List.mapM_cons, Option.pure_def, Option.bind_eq_bind, Option.bind_eq_some_iff, h, ih,
      List.forall_mem_cons, List.map_cons]
    constructor
    · rintro ⟨y, ⟨hx, rfl⟩, ys', ⟨hxs, rfl⟩, hys⟩
      exact ⟨⟨hx, hxs⟩, Option.some.inj hys⟩
    · rintro ⟨⟨hx, hxs⟩, rfl⟩
      exact ⟨_, ⟨hx, rfl⟩, _, ⟨hxs, rfl⟩, rfl⟩

theorem foldlM_eq_some_iff {f : σ → α → Option σ} {g : σ → α → σ}
    (h : ∀ s x s', f s x = some s' ↔ p x ∧ g s x = s') {xs : List α} {s s' : σ} :
    xs.foldlM f s = some s' ↔ (∀ x ∈ xs, p x) ∧ xs.foldl g s = s' := by
  induction xs generalizing s with
  | nil => simp
  | cons x xs ih =>
    simp only [List.foldlM_cons, Option.bind_eq_bind, Option.bind_eq_some_iff, h, ih,
      List.forall_mem_cons, List.foldl_cons]
    constructor
    · rintro ⟨y, ⟨hx, rfl⟩, hxs, hs⟩
      exact ⟨⟨hx, hxs⟩, hs⟩
    · rintro ⟨⟨hx, hxs⟩, hs⟩
      exact ⟨_, ⟨hx, rfl⟩, hxs, hs⟩

end Steps

/-! ## One version -/

namespace Version

theorem foldBuild?_eq (v : Version) :
    v.foldBuild? = if v.Writable then some v.foldBuild else none := by
  rw [foldBuild?, foldBuild]
  cases hbuild : v.build with
  | none => simp [writable_of_build_eq_none hbuild]
  | some b =>
    simp only [writable_iff_of_build hbuild, Build.digits?_eq, Build.chars?_eq]
    split
    · split <;> rfl
    · split <;> rfl

/-- A new label behind a build number that is too wide to be written. -/
def FoldsWide (v : Version) (suffix : List Char) : Prop :=
  (splitSuffix suffix).1 ≠ [] ∧ stripLabel? v.qualifier (splitSuffix suffix).1 = none ∧ ¬ v.Writable

instance (v : Version) (suffix : List Char) : Decidable (v.FoldsWide suffix) :=
  inferInstanceAs (Decidable (_ ∧ _ ∧ _))

theorem appendSuffix?_eq (v : Version) (suffix : List Char) :
    v.appendSuffix? suffix = if v.FoldsWide suffix then none else some (v.appendSuffix suffix) := by
  rw [appendSuffix?, appendSuffix, foldBuild?_eq]
  cases hsplit : splitSuffix suffix with
  | mk label number =>
    cases label with
    | nil => simp [FoldsWide, hsplit]
    | cons c label =>
      cases hstrip : stripLabel? v.qualifier (c :: label) with
      | some front => simp [FoldsWide, hsplit, hstrip]
      | none => by_cases hwritable : v.Writable <;> simp [FoldsWide, hsplit, hstrip, hwritable]

/-- The build number of a suffix has no more digits than the suffix has characters. -/
theorem width_splitSuffix_le {suffix : List Char} {b : Build} (hb : (splitSuffix suffix).2 = some b) :
    b.width ≤ suffix.length := by
  have htrim := (Text.trim_infix suffix).length_le
  rcases splitSuffix_cases suffix with ⟨label, digits, n, hs, -, heq⟩ | heq | heq
  · rw [heq] at hb
    obtain rfl := Option.some.inj hb
    simp only [hs, List.length_append, List.length_cons] at htrim
    show digits.length ≤ _
    omega
  · rw [heq] at hb
    obtain ⟨n, -, rfl⟩ := Option.map_eq_some_iff.mp hb
    exact htrim
  · rw [heq] at hb
    cases hb

/-- A suffix within the limit makes no number wider than the limit. Only a number that was there
already may be too wide. -/
theorem Writable.appendSuffix {v : Version} (hv : v.Writable) {suffix : List Char}
    (hsuffix : suffix.length ≤ Text.maxWidth) : (v.appendSuffix suffix).Writable := by
  have hnumber : ∀ b, (splitSuffix suffix).2 = some b → b.width ≤ Text.maxWidth :=
    fun b hb => Nat.le_trans (width_splitSuffix_le hb) hsuffix
  intro b hb
  rcases v.build_appendSuffix_cases suffix with heq | heq
  · rw [heq] at hb
    rcases Option.or_eq_some_iff.mp hb with hb | ⟨-, hb⟩
    · exact hnumber b hb
    · exact hv b hb
  · rw [heq] at hb
    exact hnumber b hb

end Version

namespace VersionPolicy

open Version

def appended? (policy : VersionPolicy) : Option String :=
  match policy.suffix with
  | .none => none
  | .fixed text => some text
  | .incremental label => some label

/-- To rebuild the version, a build number that is too wide has to be written. -/
def Aborts (policy : VersionPolicy) (present : String) : Prop :=
  ∃ suffix ∈ policy.appended?, (parse (policy.start present)).FoldsWide suffix.toList

/-- A version is rebuilt as computed, or the run is aborted. -/
theorem rebuild?_eq_some_iff {policy : VersionPolicy} {present : String} {published : List String}
    {v : Version} :
    policy.rebuild? present published = some v ↔
      ¬ policy.Aborts present ∧ policy.rebuild present published = v := by
  cases hsuffix : policy.suffix with
  | none => simp [rebuild?, rebuild, Aborts, appended?, hsuffix]
  | fixed text => simp [rebuild?, rebuild, Aborts, appended?, hsuffix, appendSuffix?_eq,
      Option.bind_eq_some_iff]
  | incremental label =>
    simp [rebuild?, rebuild, Aborts, appended?, hsuffix, appendSuffix?_eq, Option.bind_eq_some_iff]

@[simp] theorem writable_settleSnapshot (policy : VersionPolicy) (v : Version) :
    (policy.settleSnapshot v).Writable ↔ v.Writable :=
  writable_congr (policy.build_settleSnapshot v)

@[simp] theorem writable_raiseBuild (v : Version) (n : Nat) :
    (raiseBuild v n).Writable ↔ v.Writable := by
  rw [raiseBuild]
  split <;> simp

/-- Nothing is aborted where no text is longer than a number can be wide. -/
theorem writable_rebuild {policy : VersionPolicy} {present : String}
    (hsuffix : ∀ suffix ∈ policy.appended?, suffix.length ≤ Text.maxWidth)
    (hstart : (policy.start present).length ≤ Text.maxWidth) (published : List String) :
    ¬ policy.Aborts present ∧ (policy.rebuild present published).Writable := by
  have hv : (parse (policy.start present)).Writable :=
    writable_of_length_le (Nat.le_succ_of_le hstart)
  have hlabelled : ∀ suffix ∈ policy.appended?,
      ((parse (policy.start present)).appendSuffix suffix.toList).Writable := by
    intro suffix happended
    apply hv.appendSuffix
    rw [String.length_toList]
    exact hsuffix suffix happended
  refine ⟨fun ⟨_, _, hfolds⟩ => hfolds.2.2 hv, ?_⟩
  cases hkind : policy.suffix with
  | none => simpa [rebuild, hkind] using hv
  | fixed text => simpa [rebuild, hkind] using hlabelled text (by simp [appended?, hkind])
  | incremental label => simpa [rebuild, hkind] using hlabelled label (by simp [appended?, hkind])

variable {policy : VersionPolicy} {suffix : String}

/-- A policy with an incremental suffix gives every version a build number, unless the run is
aborted. The number is beyond that of every known version of the same base, the version itself among
them, unless that one is the greatest number of 64 bits; it is not below the number of the suffix;
and it is no higher than that takes. All of this stays within 64 bits. The run is aborted exactly if
the suffix goes behind a present build number that is too wide to be written. -/
theorem advances_unless_aborted (h : policy.suffix = .incremental suffix) (a : Artifact)
    (present : String) (c : Candidates) :
    (policy.calculate? a present c = none ↔
        (parse (policy.start present)).FoldsWide suffix.toList) ∧
      ∀ v, policy.calculate? a present c = some v →
        policy.nextBuild suffix present (c.versions a) ≤ Text.maxWord ∧
        ∃ b, v.buildNumber = some b ∧ 1 ≤ b ∧ b ≤ Text.maxWord ∧
          (∀ text ∈ c.versions a ++ [policy.start present], v.sameBase (parse text) = true →
            ∀ n, (parse text).buildNumber = some n → n < Text.maxWord → n < b) ∧
          (∀ n, carriedNumber? suffix.toList = some n → n ≤ b) ∧
          (b = 1 ∨ (policy.labelled suffix present).buildNumber = some b ∨
            ∃ text ∈ c.versions a ++ [policy.start present],
              v.sameBase (parse text) = true ∧ (parse text).buildNumber = some (b - 1)) := by
  have haborts : policy.Aborts present ↔
      (parse (policy.start present)).FoldsWide suffix.toList := by
    simp [Aborts, appended?, h]
  constructor
  · simp [Option.eq_none_iff_forall_ne_some, calculate?, rebuild?_eq_some_iff, haborts]
  · intro v hv
    obtain ⟨-, rfl⟩ := rebuild?_eq_some_iff.mp hv
    exact calculate_advances h a present c

/-- A policy that appends `redhat` with a number of five digits, in place of any version. -/
def paddedPolicy : VersionPolicy where
  override := some "1.2.redhat-18446744073709551615"
  suffix := .incremental "redhat-00007"

/-- Published versions: the greatest number, which is not counted, one of the base, and a text that
is no version. -/
def redhatPublished : Candidates :=
  Table.ofList [({ group := "org.a", name := "lib" },
    ["1.2.redhat-18446744073709551615", "1.2.0_RedHat.41", "[1.0,2.0)"])]

theorem advances_paddedPolicy :
    ∃ v b, paddedPolicy.calculate? { group := "org.a", name := "lib" } "3.4" redhatPublished = some v ∧
      v.buildNumber = some b ∧ 41 < b ∧ 7 ≤ b := by
  have hsuffix : paddedPolicy.suffix = .incremental "redhat-00007" := rfl
  obtain ⟨habort, hadvance⟩ :=
    advances_unless_aborted hsuffix { group := "org.a", name := "lib" } "3.4" redhatPublished
  cases hv : paddedPolicy.calculate? { group := "org.a", name := "lib" } "3.4" redhatPublished with
  | none => exact absurd (habort.mp hv) (by decide +kernel)
  | some v =>
    obtain ⟨_, b, hb, _, _, hbeyond, hcarried, _⟩ := hadvance v hv
    obtain ⟨-, rfl⟩ := rebuild?_eq_some_iff.mp hv
    refine ⟨_, b, rfl, hb, hbeyond "1.2.0_RedHat.41" ?_ ?_ 41 ?_ (by decide), hcarried 7 ?_⟩
    all_goals decide +kernel

def redhatCount : VersionPolicy where
  suffix := .incremental "redhat"

/-- The label goes behind the number, which has to be written for that. -/
theorem count_behind_wide_number_aborted :
    redhatCount.calculate? { group := "org.a", name := "lib" } wideNumber ∅ = none := by
  have hfolds : (parse (redhatCount.start wideNumber)).FoldsWide "redhat".toList := by
    refine ⟨by decide, ?_, not_writable_wideNumber⟩
    have hqualifier : (parse wideNumber).qualifier = [] := by
      rw [parse_wideNumber]
      rfl
    rw [start, redhatCount, Option.getD_none, hqualifier]
    decide
  have haborts : redhatCount.Aborts wideNumber := ⟨"redhat", rfl, hfolds⟩
  simp [Option.eq_none_iff_forall_ne_some, calculate?, rebuild?_eq_some_iff, haborts]

end VersionPolicy

/-! ## A whole reactor -/

namespace VersionChanges

open Version VersionPolicy

/-- The version of a module cannot be rebuilt, or what it is rebuilt to cannot be written. -/
def Aborts (r : Reactor) (policy : VersionPolicy) (c : Candidates) (id : Nat) : Prop :=
  ∃ present ∈ r.version? id, policy.Aborts present ∨
    ¬ (policy.calculate (r.artifact id) present c).Writable

theorem rebuildModule?_eq_some_iff {r : Reactor} {policy : VersionPolicy} {c : Candidates} {id : Nat}
    {item : Option (Coordinate × Version)} :
    rebuildModule? r policy c id = some item ↔
      (∀ present ∈ r.version? id, ¬ policy.Aborts present) ∧ rebuilt? r policy c id = item := by
  cases hversion : r.version? id with
  | none => simp [rebuildModule?, rebuilt?, hversion]
  | some present =>
    simp [rebuildModule?, rebuilt?, hversion, calculate?, rebuild?_eq_some_iff, calculate]

theorem writeNumbered?_eq_some_iff {osgi : Bool} {v : Version} {text : Option String} :
    writeNumbered? osgi v = some text ↔ v.Writable ∧ numbered? osgi v = text := by
  rw [writeNumbered?, numbered?]
  cases hbuild : v.build with
  | none => simp [hasBuildNumber, hbuild, writable_of_build_eq_none hbuild]
  | some b => simp [hasBuildNumber, hbuild, renderAs?_eq]

theorem writable_reconcile (texts : KeySet String) (v : Version) :
    (reconcile texts v).Writable ↔ v.Writable := by
  rw [reconcile]
  split <;> simp

theorem settle?_eq_some_iff (osgi : Bool) (state : KeySet String × VersionChanges)
    (item : Coordinate × Version) (state' : KeySet String × VersionChanges) :
    settle? osgi state item = some state' ↔ item.2.Writable ∧ settle osgi state item = state' := by
  simp [settle?, settle, renderAs?_eq, writable_reconcile]

/-- No module aborts exactly if all versions can be rebuilt and what comes out can be written. -/
theorem forall_not_aborts_iff {r : Reactor} {policy : VersionPolicy} {c : Candidates}
    {ids : List Nat} :
    (∀ id ∈ ids, ¬ Aborts r policy c id) ↔
      (∀ id ∈ ids, ∀ present ∈ r.version? id, ¬ policy.Aborts present) ∧
        ∀ item ∈ ids.filterMap (rebuilt? r policy c), item.2.Writable := by
  constructor
  · intro h
    refine ⟨fun id hid present hpresent habort => h id hid ⟨present, hpresent, .inl habort⟩, ?_⟩
    intro item hitem
    obtain ⟨id, hid, hrebuilt⟩ := List.mem_filterMap.mp hitem
    obtain ⟨present, hpresent, rfl⟩ := Option.map_eq_some_iff.mp hrebuilt
    by_contra hwide
    exact h id hid ⟨present, hpresent, .inr hwide⟩
  · rintro ⟨hrebuild, hwrite⟩ id hid ⟨present, hpresent, habort | hwide⟩
    · exact hrebuild id hid present hpresent habort
    · have hrebuilt : rebuilt? r policy c id =
          some ((r.artifact id).at present, policy.calculate (r.artifact id) present c) :=
        Option.map_eq_some_iff.mpr ⟨present, hpresent, rfl⟩
      exact hwide (hwrite _ (List.mem_filterMap.mpr ⟨id, hid, hrebuilt⟩))

/-- The changes are those that are computed without regard to writing, unless the run is aborted at
some module. -/
theorem ofPolicy?_eq_some_iff {r : Reactor} {policy : VersionPolicy} {osgi : Bool} {c : Candidates}
    {changes : VersionChanges} :
    ofPolicy? r policy osgi c = some changes ↔
      (∀ id ∈ r.ids, ¬ Aborts r policy c id) ∧ ofPolicy r policy osgi c = changes := by
  have hitems : (r.ids.map (rebuilt? r policy c)).filterMap id =
      r.ids.filterMap (rebuilt? r policy c) := by
    simp [List.filterMap_map]
  simp only [ofPolicy?, ofPolicy, Option.pure_def, Option.bind_eq_bind, Option.bind_eq_some_iff,
    mapM_eq_some_iff fun _ _ => rebuildModule?_eq_some_iff,
    mapM_eq_some_iff fun _ _ => writeNumbered?_eq_some_iff,
    foldlM_eq_some_iff (settle?_eq_some_iff osgi), forall_not_aborts_iff]
  constructor
  · rintro ⟨_, ⟨hrebuild, rfl⟩, _, ⟨hwrite, rfl⟩, _, ⟨-, rfl⟩, hchanges⟩
    rw [hitems] at hwrite hchanges
    exact ⟨⟨hrebuild, hwrite⟩, by simpa [List.filterMap_map] using hchanges⟩
  · rintro ⟨⟨hrebuild, hwrite⟩, rfl⟩
    rw [← hitems] at hwrite
    refine ⟨_, ⟨hrebuild, rfl⟩, _, ⟨hwrite, rfl⟩, _, ⟨hwrite, rfl⟩, ?_⟩
    rw [hitems]
    simp [List.filterMap_map]

/-- No text of usual length aborts the run. -/
theorem ofPolicy?_of_length_le {r : Reactor} {policy : VersionPolicy} (osgi : Bool) (c : Candidates)
    (hsuffix : ∀ suffix ∈ policy.appended?, suffix.length ≤ Text.maxWidth)
    (hversion : ∀ id ∈ r.ids, ∀ present ∈ r.version? id,
      (policy.start present).length ≤ Text.maxWidth) :
    ofPolicy? r policy osgi c = some (ofPolicy r policy osgi c) := by
  refine ofPolicy?_eq_some_iff.mpr ⟨?_, rfl⟩
  rintro id hid ⟨present, hpresent, habort⟩
  obtain ⟨hrebuild, hwrite⟩ := writable_rebuild hsuffix (hversion id hid present hpresent)
    (c.versions (r.artifact id))
  rcases habort with habort | hwide
  · exact hrebuild habort
  · exact hwide hwrite

end VersionChanges

end BuildAlign
