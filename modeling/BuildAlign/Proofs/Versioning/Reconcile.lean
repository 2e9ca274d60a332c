import BuildAlign.Proofs.Table
import BuildAlign.Proofs.Versioning.Rebuild
import BuildAlign.Versioning.Changes

/-!
Build numbers of a whole reactor. The second pass changes the texts that it counts while it goes on,
but every text it adds has the base and the number of a version that was there before. So the
highest number of a base stays what it was at the start, and every module of the base gets it, also
where the pass is skipped because there is only one text.
-/

namespace BuildAlign

namespace Version

/-- A version that is counted under its own base when it is written. -/
structure Countable (v : Version) : Prop where
  tidy : v.Tidy
  counted : ∃ n, v.buildNumber = some n ∧ n < Text.maxWord

namespace Countable

variable {v w : Version}

theorem base_parse_render (hv : v.Countable) : (parse v.render).base = v.base := by
  rw [hv.tidy.legible.parse_render, base_written]

theorem buildNumber_parse_render (hv : v.Countable) :
    (parse v.render).buildNumber = v.buildNumber := by
  rw [hv.tidy.legible.parse_render, buildNumber_written]

/-- The number of a version is at most the highest one of its base where its text is counted. -/
theorem le_highestBuild (hv : v.Countable) {texts : List String} (htext : v.render ∈ texts)
    (hbase : v.base = w.base) {n : Nat} (hn : v.buildNumber = some n) :
    n ≤ w.highestBuild texts := by
  obtain ⟨m, hm, hlt⟩ := hv.counted
  obtain rfl : m = n := Option.some.inj (hm.symm.trans hn)
  exact Version.le_highestBuild htext (countedBuild?_eq_some_iff.mpr
    ⟨hv.base_parse_render.trans hbase, hv.buildNumber_parse_render.trans hm, hlt⟩)

end Countable

end Version

namespace VersionChanges

open Version VersionPolicy

variable {items : List (Coordinate × Version)} {texts : KeySet String}

def startTexts (items : List (Coordinate × Version)) : List String :=
  items.map fun item => item.2.render

theorem render_mem_startTexts {item : Coordinate × Version} (hitem : item ∈ items) :
    item.2.render ∈ startTexts items :=
  List.mem_map.mpr ⟨item, hitem, rfl⟩

/-! ## One step -/

/-- The texts contain those of all items, and each of them counts like the text of an item. -/
structure Covers (items : List (Coordinate × Version)) (texts : KeySet String) : Prop where
  kept : ∀ item ∈ items, item.2.render ∈ texts.keys
  known : ∀ text ∈ texts.keys, ∃ item ∈ items,
    (parse text).base = item.2.base ∧ (parse text).buildNumber = item.2.buildNumber

/-- However many settled texts were added, the highest number of a base is that of the start. Hence
all items of one base come out with one number. -/
theorem Covers.highestBuild_eq (hitems : ∀ item ∈ items, item.2.Countable)
    (hcovers : Covers items texts) (v : Version) :
    v.highestBuild texts.keys = v.highestBuild (startTexts items) := by
  apply Nat.le_antisymm
  · rcases v.highestBuild_attained texts.keys with hzero | ⟨text, htext, hcounted⟩
    · rw [hzero]
      exact Nat.zero_le _
    · obtain ⟨item, hitem, hbase, hnumber⟩ := hcovers.known text htext
      obtain ⟨hsame, hn, _⟩ := countedBuild?_eq_some_iff.mp hcounted
      exact (hitems item hitem).le_highestBuild (render_mem_startTexts hitem)
        (hbase.symm.trans hsame) (hnumber.symm.trans hn)
  · apply highestBuild_mono
    intro text htext
    obtain ⟨item, hitem, rfl⟩ := List.mem_map.mp htext
    exact hcovers.kept item hitem

/-- The highest number of a base is the number of an item. -/
theorem highestBuild_startTexts (hitems : ∀ item ∈ items, item.2.Countable)
    {item : Coordinate × Version} (hitem : item ∈ items) :
    ∃ item' ∈ items, item'.2.base = item.2.base ∧
      item'.2.buildNumber = some (item.2.highestBuild (startTexts items)) := by
  rcases item.2.highestBuild_attained (startTexts items) with hzero | ⟨text, htext, hcounted⟩
  · -- the item itself has a number, and that is not greater
    obtain ⟨n, hn, _⟩ := (hitems item hitem).counted
    have hle := (hitems item hitem).le_highestBuild (render_mem_startTexts hitem) rfl hn
    obtain rfl : n = 0 := Nat.le_zero.mp (hzero ▸ hle)
    exact ⟨item, hitem, rfl, hzero.symm ▸ hn⟩
  · obtain ⟨item', hitem', rfl⟩ := List.mem_map.mp htext
    obtain ⟨hbase, hn, _⟩ := countedBuild?_eq_some_iff.mp hcounted
    exact ⟨item', hitem', (hitems item' hitem').base_parse_render.symm.trans hbase,
      (hitems item' hitem').buildNumber_parse_render.symm.trans hn⟩

/-- Reconciling gives every item the highest number of its base. -/
theorem reconcile_spec (hitems : ∀ item ∈ items, item.2.Countable) (hcovers : Covers items texts)
    {item : Coordinate × Version} (hitem : item ∈ items) :
    (reconcile texts item.2).Tidy ∧ (reconcile texts item.2).base = item.2.base ∧
      (reconcile texts item.2).buildNumber = some (item.2.highestBuild (startTexts items)) := by
  have hhighest := hcovers.highestBuild_eq hitems item.2
  have hcountable := hitems item hitem
  rw [reconcile, hhighest]
  -- if nothing is raised, the item has the highest number already
  by_cases hraise : 1 < texts.size ∧ 0 < item.2.highestBuild (startTexts items)
  · rw [if_pos hraise]
    exact ⟨hcountable.tidy.setBuild (Nat.le_of_lt (item.2.highestBuild_lt_maxWord _)), rfl,
      buildNumber_setBuild ..⟩
  · rw [if_neg hraise]
    refine ⟨hcountable.tidy, rfl, ?_⟩
    obtain ⟨n, hn, _⟩ := hcountable.counted
    have hle : n ≤ item.2.highestBuild (startTexts items) :=
      hcountable.le_highestBuild (render_mem_startTexts hitem) rfl hn
    have hge : item.2.highestBuild (startTexts items) ≤ n := by
      rcases item.2.highestBuild_attained texts.keys with hzero | ⟨text, htext, hcounted⟩
      · rw [← hhighest, hzero]
        exact Nat.zero_le n
      · by_cases hsize : 1 < texts.size
        · exact Nat.le_trans (Nat.not_lt.mp fun hpos => hraise ⟨hsize, hpos⟩) (Nat.zero_le n)
        · -- the only text is the item's own
          obtain rfl : text = item.2.render :=
            Table.eq_of_size_le_one (Nat.not_lt.mp hsize) htext (hcovers.kept item hitem)
          rw [hhighest] at hcounted
          obtain ⟨_, hnumber, _⟩ := countedBuild?_eq_some_iff.mp hcounted
          rw [hcountable.buildNumber_parse_render, hn] at hnumber
          exact Nat.le_of_eq (Option.some.inj hnumber).symm
    rw [hn, Nat.le_antisymm hle hge]

/-- A text that is read with the base of a version and the highest number of that base. -/
def Settles (items : List (Coordinate × Version)) (v : Version) (text : String) : Prop :=
  (parse text).base = v.base ∧ (parse text).buildNumber = some (v.highestBuild (startTexts items))

theorem settles_render_reconcile (hitems : ∀ item ∈ items, item.2.Countable)
    (hcovers : Covers items texts) {item : Coordinate × Version} (hitem : item ∈ items) :
    Settles items item.2 (reconcile texts item.2).render := by
  obtain ⟨htidy, hbase, hnumber⟩ := reconcile_spec hitems hcovers hitem
  rw [Settles, htidy.legible.parse_render, base_written, buildNumber_written]
  exact ⟨hbase, hnumber⟩

/-- A text that settles an item has the highest number of its base, so there is no higher one after
it. -/
theorem Covers.add (hitems : ∀ item ∈ items, item.2.Countable) (hcovers : Covers items texts)
    {item : Coordinate × Version} (hitem : item ∈ items) {text : String}
    (htext : Settles items item.2 text) : Covers items (texts.add text) where
  kept := fun item' hitem' => KeySet.mem_keys_add.mpr (.inr (hcovers.kept item' hitem'))
  known := by
    intro text' htext'
    rcases KeySet.mem_keys_add.mp htext' with rfl | htext'
    · obtain ⟨item', hitem', hbase, hnumber⟩ := highestBuild_startTexts hitems hitem
      exact ⟨item', hitem', htext.1.trans hbase.symm, htext.2.trans hnumber.symm⟩
    · exact hcovers.known text' htext'

/-! ## The whole pass -/

/-- What holds after some items are done: the listed changes are right, and so are the present
versions of the items that are not listed. -/
structure Settled (items done : List (Coordinate × Version))
    (state : KeySet String × VersionChanges) : Prop where
  covers : Covers items state.1
  listed : ∀ item ∈ items, ∀ text, state.2.get? item.1 = some text → Settles items item.2 text
  unlisted : ∀ item ∈ done, state.2.get? item.1 = none → Settles items item.2 item.1.version

/-- One more item is done: it comes out with the highest number of its base, and is left out of the
table only if it has that text already. -/
theorem Settled.settle {done : List (Coordinate × Version)}
    {state : KeySet String × VersionChanges} (hitems : ∀ item ∈ items, item.2.Countable)
    (hsame : ∀ item ∈ items, ∀ item' ∈ items, item.1 = item'.1 → item.2 = item'.2)
    (h : Settled items done state) {item : Coordinate × Version} (hitem : item ∈ items) :
    Settled items (done ++ [item]) (settle false state item) := by
  have htext := settles_render_reconcile hitems h.covers hitem
  have hcovers := h.covers.add hitems hitem htext
  simp only [VersionChanges.settle, enter, renderAs, if_neg Bool.false_ne_true]
  by_cases heq : item.1.version = (reconcile state.1 item.2).render
  · rw [if_pos heq]
    refine ⟨hcovers, h.listed, ?_⟩
    intro item' hitem' hnone
    rcases List.mem_append.mp hitem' with hdone | hlast
    · exact h.unlisted item' hdone hnone
    · rw [List.mem_singleton.mp hlast, heq]
      exact htext
  · rw [if_neg heq]
    refine ⟨hcovers, ?_, ?_⟩
    · intro item' hitem' text hlisted
      rw [Table.get?_insert] at hlisted
      split at hlisted
      · -- a coordinate that comes again is that of the same version
        rename_i hcoordinate
        rw [← Option.some.inj hlisted, hsame item' hitem' item hitem hcoordinate]
        exact htext
      · exact h.listed item' hitem' text hlisted
    · intro item' hitem' hnone
      rw [Table.get?_insert] at hnone
      split at hnone
      · exact absurd hnone nofun
      · rename_i hcoordinate
        rcases List.mem_append.mp hitem' with hdone | hlast
        · exact h.unlisted item' hdone hnone
        · exact absurd (congrArg Prod.fst (List.mem_singleton.mp hlast)) hcoordinate

/-- The invariant after any further items, by induction on their list. An item may come again, as a
coordinate has one version. -/
theorem Settled.foldl_settle {done rest : List (Coordinate × Version)}
    {state : KeySet String × VersionChanges} (hitems : ∀ item ∈ items, item.2.Countable)
    (hsame : ∀ item ∈ items, ∀ item' ∈ items, item.1 = item'.1 → item.2 = item'.2)
    (h : Settled items done state) (hrest : rest ⊆ items) :
    Settled items (done ++ rest) (rest.foldl (VersionChanges.settle false) state) := by
  induction rest generalizing done state with
  | nil => rwa [List.append_nil]
  | cons item rest ih =>
    obtain ⟨hitem, hrest⟩ := List.cons_subset.mp hrest
    have hlater := ih (h.settle hitems hsame hitem) hrest
    rwa [List.append_assoc, List.singleton_append] at hlater

theorem settled_start (hitems : ∀ item ∈ items, item.2.Countable) :
    Settled items [] (KeySet.ofList (items.filterMap fun item => numbered? false item.2), ∅) := by
  have hnumbered : ∀ item ∈ items, numbered? false item.2 = some item.2.render := by
    intro item hitem
    obtain ⟨n, hn, _⟩ := (hitems item hitem).counted
    obtain ⟨b, hbuild, _⟩ := Option.map_eq_some_iff.mp hn
    rw [numbered?, hasBuildNumber, hbuild]
    rfl
  refine ⟨⟨?_, ?_⟩, nofun, nofun⟩
  · intro item hitem
    exact KeySet.mem_keys_ofList.mpr (List.mem_filterMap.mpr ⟨item, hitem, hnumbered item hitem⟩)
  · intro text htext
    obtain ⟨item, hitem, hsome⟩ := List.mem_filterMap.mp (KeySet.mem_keys_ofList.mp htext)
    obtain rfl : item.2.render = text := Option.some.inj ((hnumbered item hitem).symm.trans hsome)
    exact ⟨item, hitem, (hitems item hitem).base_parse_render,
      (hitems item hitem).buildNumber_parse_render⟩

/-! ## All modules of a reactor -/

def rebuiltItems (r : Reactor) (policy : VersionPolicy) (c : Candidates) :
    List (Coordinate × Version) :=
  r.ids.filterMap (rebuilt? r policy c)

/-- The version that a coordinate has after the changes. -/
def changed (changes : VersionChanges) (coordinate : Coordinate) : Version :=
  parse (changes.getD coordinate coordinate.version)

/-- A policy that can rebuild all modules of a reactor, with published versions that leave room. -/
structure Applicable (r : Reactor) (policy : VersionPolicy) (c : Candidates) (label : String) :
    Prop where
  rebuildable : ∀ id ∈ r.ids, ∀ present, r.version? id = some present →
    policy.Rebuildable label present
  room : ∀ id ∈ r.ids, ∀ text ∈ c.versions (r.artifact id), HasRoom text

section

variable {r : Reactor} {policy : VersionPolicy} {c : Candidates} {label : String}
  (h : Applicable r policy c label)

include h

/-- Every version that is counted was rebuilt from one of the reactor, with what is published of its
artifact. -/
theorem Applicable.rebuilt {item : Coordinate × Version} (hitem : item ∈ rebuiltItems r policy c) :
    policy.Rebuildable label item.1.version ∧
      (∀ text ∈ c.versions item.1.artifact, HasRoom text) ∧
      item.2 = policy.rebuild item.1.version (c.versions item.1.artifact) := by
  obtain ⟨id, hid, hsome⟩ := List.mem_filterMap.mp hitem
  obtain ⟨present, hpresent, rfl⟩ := Option.map_eq_some_iff.mp hsome
  exact ⟨h.rebuildable id hid present hpresent, h.room id hid, rfl⟩

theorem Applicable.countable {item : Coordinate × Version}
    (hitem : item ∈ rebuiltItems r policy c) : item.2.Countable := by
  obtain ⟨hrebuildable, hroom, heq⟩ := h.rebuilt hitem
  rw [heq]
  exact ⟨hrebuildable.tidy_rebuild hroom, _, hrebuildable.buildNumber_rebuild _,
    hrebuildable.nextBuild_lt hroom⟩

/-- Every coordinate is settled, whether its version is changed or stays. -/
theorem Applicable.settles_changed {item : Coordinate × Version}
    (hitem : item ∈ rebuiltItems r policy c) :
    (changed (ofPolicy r policy false c) item.1).base = item.2.base ∧
      (changed (ofPolicy r policy false c) item.1).buildNumber =
        some (item.2.highestBuild (startTexts (rebuiltItems r policy c))) := by
  have hitems : ∀ item ∈ rebuiltItems r policy c, item.2.Countable := fun _ => h.countable
  have hsame : ∀ item ∈ rebuiltItems r policy c, ∀ item' ∈ rebuiltItems r policy c,
      item.1 = item'.1 → item.2 = item'.2 := by
    intro item hitem item' hitem' heq
    rw [(h.rebuilt hitem).2.2, (h.rebuilt hitem').2.2, heq]
  have hfinal : Settled (rebuiltItems r policy c) (rebuiltItems r policy c) _ :=
    (settled_start hitems).foldl_settle hitems hsame (List.Subset.refl _)
  rw [changed, Table.getD]
  cases hlisted : (ofPolicy r policy false c).get? item.1 with
  | none => exact hfinal.unlisted item hitem hlisted
  | some text => exact hfinal.listed item hitem text hlisted

/-- What is published of the base for a module has a smaller number than the module. -/
theorem Applicable.published_lt {item : Coordinate × Version}
    (hitem : item ∈ rebuiltItems r policy c) {text : String}
    (htext : text ∈ c.versions item.1.artifact) (hbase : (parse text).base = item.2.base)
    {n m : Nat} (hn : (parse text).buildNumber = some n)
    (hm : item.2.buildNumber = some m) : n < m := by
  obtain ⟨hrebuildable, hroom, heq⟩ := h.rebuilt hitem
  rw [heq, hrebuildable.buildNumber_rebuild] at hm
  rw [heq, hrebuildable.base_rebuild] at hbase
  obtain rfl : _ = m := Option.some.inj hm
  exact policy.lt_nextBuild htext (hroom text htext) hbase hn

end

def twoModules : Reactor where
  modules := [
    { group := some "org.a", name := "root", version := some "1.2.3" },
    { group := some "org.a", name := "lib", version := some "1.2.3" }]
  forest := Reactor.forest_of_checks (by simp) (by decide) (by decide)

def moduleCoordinate (id : Nat) : Coordinate :=
  (twoModules.artifact id).at "1.2.3"

def libPublished : Candidates :=
  Table.insert ∅ (twoModules.artifact 1) ["1.2.3.foo-4"]

theorem applicable_twoModules : Applicable twoModules fooPolicy libPublished "foo" where
  rebuildable := by
    have hversions : ∀ id ∈ twoModules.ids, twoModules.version? id = some "1.2.3" := by
      decide +kernel
    intro id hid present hpresent
    obtain rfl : "1.2.3" = present := Option.some.inj ((hversions id hid).symm.trans hpresent)
    exact rebuildable_fooPolicy
      (isPlain_core [['1'], ['2'], ['3']] (by simp) (by decide) rfl) (by decide +kernel)
  room := by
    have hpublished : ∀ id ∈ twoModules.ids,
        ∀ text ∈ libPublished.versions (twoModules.artifact id), text = "1.2.3.foo-4" := by
      decide +kernel
    have hnumber : (parse "1.2.3.foo-4").buildNumber = some 4 := by decide +kernel
    intro id hid text htext n hn
    rw [hpublished id hid text htext, hnumber] at hn
    obtain rfl : 4 = n := Option.some.inj hn
    decide

end VersionChanges

end BuildAlign
