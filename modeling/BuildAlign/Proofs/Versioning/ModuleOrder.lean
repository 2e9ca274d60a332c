import BuildAlign.Proofs.Reactor.Reordering
import BuildAlign.Proofs.Versioning.Reconcile
import Mathlib.Data.List.Perm.Subperm

/-!
Whether the order of the modules matters for their new versions. A module is reconciled with the
texts of the numbered versions and, beyond these, with the texts of the modules that come before it.
The order is of no matter exactly if no two of these further texts ever change what comes out; and
where texts are read back as the versions they were written from, exactly if there is not one single
numbered text, the base of which another module has without the number.
-/

namespace BuildAlign

/-- Every order of the results of a partial function comes from an order of its arguments. -/
theorem exists_perm_filterMap {α β : Type} {f : α → Option β} {ys ys' : List β}
    (hperm : ys'.Perm ys) {xs : List α} (hxs : xs.filterMap f = ys) :
    ∃ xs' : List α, xs'.Perm xs ∧ xs'.filterMap f = ys' := by
  induction hperm generalizing xs with
  | nil => exact ⟨xs, .refl xs, hxs⟩
  | cons y _ ih =>
    obtain ⟨front, x, later, rfl, hfront, hx, hlater⟩ := List.filterMap_eq_cons_iff.mp hxs
    obtain ⟨later', hperm, rfl⟩ := ih hlater
    refine ⟨front ++ x :: later', (hperm.cons x).append_left front, ?_⟩
    rw [List.filterMap_append, List.filterMap_eq_nil_iff.mpr hfront, List.filterMap_cons_some hx,
      List.nil_append]
  | swap y y' ys =>
    obtain ⟨front, x, rest, rfl, hfront, hx, hrest⟩ := List.filterMap_eq_cons_iff.mp hxs
    obtain ⟨middle, x', later, rfl, hmiddle, hx', rfl⟩ := List.filterMap_eq_cons_iff.mp hrest
    refine ⟨front ++ x' :: (middle ++ x :: later), .append_left front ?_, ?_⟩
    · calc (x' :: (middle ++ x :: later)).Perm (x' :: x :: (middle ++ later)) :=
          List.perm_middle.cons x'
        List.Perm _ (x :: x' :: (middle ++ later)) := .swap ..
        List.Perm _ (x :: (middle ++ x' :: later)) := List.perm_middle.symm.cons x
    · simp [List.filterMap_append, List.filterMap_eq_nil_iff.mpr hfront,
        List.filterMap_eq_nil_iff.mpr hmiddle, hx, hx']
  | trans _ _ ih ih' =>
    obtain ⟨xs', hperm, hxs'⟩ := ih' hxs
    obtain ⟨xs'', hperm', hxs''⟩ := ih hxs'
    exact ⟨xs'', hperm'.trans hperm, hxs''⟩

/-! ## Texts that are read back -/

namespace Version

/-- The base and the number of a version are read back from its text. -/
def ReadsBack (osgi : Bool) (v : Version) : Prop :=
  (parse (v.renderAs osgi)).base = v.base ∧ (parse (v.renderAs osgi)).buildNumber = v.buildNumber

/-- A version that is read back as it is, and with every number that may be set. -/
structure Readable (osgi : Bool) (v : Version) : Prop where
  direct : v.ReadsBack osgi
  raised : ∀ n < Text.maxWord, (v.setBuild n).ReadsBack osgi

theorem Tidy.readsBack {v : Version} (hv : v.Tidy) : v.ReadsBack false := by
  rw [ReadsBack, renderAs, if_neg Bool.false_ne_true, hv.legible.parse_render, base_written,
    buildNumber_written]
  exact ⟨rfl, rfl⟩

theorem Tidy.readable {v : Version} (hv : v.Tidy) : v.Readable false where
  direct := hv.readsBack
  raised := fun _ hn => (hv.setBuild (Nat.le_of_lt hn)).readsBack

end Version

namespace VersionChanges

open Version

variable {osgi : Bool} {items : List (Coordinate × Version)}

/-! ## What a module is reconciled with -/

/-- The texts of the versions that have a number. -/
def numberedTexts (osgi : Bool) (items : List (Coordinate × Version)) : KeySet String :=
  .ofList (items.filterMap fun item => numbered? osgi item.2)

/-- The text of a module that is reconciled with the given texts. -/
def settledText (osgi : Bool) (texts : KeySet String) (item : Coordinate × Version) : String :=
  (reconcile texts item.2).renderAs osgi

/-- The text of a module that comes before all others. -/
def directText (osgi : Bool) (items : List (Coordinate × Version)) (item : Coordinate × Version) :
    String :=
  settledText osgi (numberedTexts osgi items) item

def changesOf (osgi : Bool) (items : List (Coordinate × Version)) : VersionChanges :=
  (items.foldl (settle osgi) (numberedTexts osgi items, ∅)).2

def grow (osgi : Bool) (texts : KeySet String) (item : Coordinate × Version) : KeySet String :=
  texts.add (settledText osgi texts item)

theorem foldl_settle_texts (later : List (Coordinate × Version))
    (state : KeySet String × VersionChanges) :
    (later.foldl (settle osgi) state).1 = later.foldl (grow osgi) state.1 := by
  induction later generalizing state with
  | nil => rfl
  | cons item later ih => exact ih (settle osgi state item)

/-- Settling a module changes the table at its own coordinate only, and only if it comes out with
another text. -/
theorem get?_settle (state : KeySet String × VersionChanges) (item : Coordinate × Version)
    (coordinate : Coordinate) :
    (settle osgi state item).2.get? coordinate =
      if item.1.version ≠ settledText osgi state.1 item ∧ coordinate = item.1 then
        some (settledText osgi state.1 item)
      else state.2.get? coordinate := by
  simp only [settle, enter, settledText]
  by_cases hsame : item.1.version = (reconcile state.1 item.2).renderAs osgi
  · simp [hsame]
  · simp [hsame, Table.get?_insert]

theorem get?_foldl_settle_of_ne {coordinate : Coordinate} {later : List (Coordinate × Version)}
    (hlater : ∀ item ∈ later, item.1 ≠ coordinate) (state : KeySet String × VersionChanges) :
    (later.foldl (settle osgi) state).2.get? coordinate = state.2.get? coordinate := by
  induction later generalizing state with
  | nil => rfl
  | cons item later ih =>
    obtain ⟨hitem, hlater⟩ := List.forall_mem_cons.mp hlater
    rw [List.foldl_cons, ih hlater, get?_settle, if_neg fun h => hitem h.2.symm]

/-- A module is listed with the text it gets from the modules before it, unless it has that text. -/
theorem get?_changesOf {front later : List (Coordinate × Version)} {item : Coordinate × Version}
    (hitems : items = front ++ item :: later) (hkeys : (items.map Prod.fst).Nodup) :
    (changesOf osgi items).get? item.1 =
      let text := settledText osgi (front.foldl (grow osgi) (numberedTexts osgi items)) item
      if item.1.version ≠ text then some text else none := by
  have hne : ∀ other ∈ front ++ later, other.1 ≠ item.1 := by
    have hcons : (item.1 :: (front ++ later).map Prod.fst).Nodup := by
      refine (List.Perm.nodup_iff ?_).mp hkeys
      rw [hitems, ← List.map_cons]
      exact List.perm_middle.map Prod.fst
    exact fun other hother heq =>
      (List.nodup_cons.mp hcons).1 (heq ▸ List.mem_map_of_mem hother)
  obtain ⟨hfront, hlater⟩ := List.forall_mem_append.mp hne
  have hbefore : (front.foldl (settle osgi) (numberedTexts osgi items, ∅)).2.get? item.1 = none :=
    get?_foldl_settle_of_ne hfront _
  have hsplit : changesOf osgi items =
      ((front ++ item :: later).foldl (settle osgi) (numberedTexts osgi items, ∅)).2 := by
    rw [changesOf, ← hitems]
  rw [hsplit, List.foldl_append, List.foldl_cons, get?_foldl_settle_of_ne hlater, get?_settle,
    hbefore, foldl_settle_texts]
  simp

theorem getD_changesOf {front later : List (Coordinate × Version)} {item : Coordinate × Version}
    (hitems : items = front ++ item :: later) (hkeys : (items.map Prod.fst).Nodup) :
    (changesOf osgi items).getD item.1 item.1.version =
      settledText osgi (front.foldl (grow osgi) (numberedTexts osgi items)) item := by
  rw [Table.getD, get?_changesOf hitems hkeys]
  dsimp only
  split
  · rfl
  · rename_i hsame
    exact not_not.mp hsame

theorem numberedTexts_perm {items' : List (Coordinate × Version)} (hperm : items'.Perm items) :
    numberedTexts osgi items' = numberedTexts osgi items := by
  refine KeySet.eq_of_mem_keys fun text => ?_
  rw [numberedTexts, numberedTexts, KeySet.mem_keys_ofList, KeySet.mem_keys_ofList]
  exact (hperm.filterMap _).mem_iff

/-! ## Two further texts decide -/

/-- No module gets another text from what one or two others come out with. -/
def Steady (osgi : Bool) (items : List (Coordinate × Version)) : Prop :=
  ∀ item ∈ items, ∀ other ∈ items, ∀ other' ∈ items, other.1 ≠ item.1 → other'.1 ≠ item.1 →
    settledText osgi (((numberedTexts osgi items).add (directText osgi items other)).add
      (directText osgi items other')) item = directText osgi items item

/-- Part of the texts does for a version, if it has a text with the highest number and another. -/
theorem reconcile_of_subset {part texts : KeySet String} {v : Version}
    (hsub : part.keys ⊆ texts.keys) {text text' : String} (htext : text ∈ part.keys)
    (htext' : text' ∈ part.keys) (hne : text' ≠ text)
    (hcounted : countedBuild? v.base text = some (v.highestBuild texts.keys)) :
    reconcile part v = reconcile texts v := by
  have hhighest : v.highestBuild part.keys = v.highestBuild texts.keys :=
    Nat.le_antisymm (highestBuild_mono hsub) (le_highestBuild htext hcounted)
  have hpart : 1 < part.size := Table.one_lt_size htext htext' hne
  have htexts : 1 < texts.size := Table.one_lt_size (hsub htext) (hsub htext') hne
  rw [reconcile, reconcile, hhighest]
  simp only [hpart, htexts]

/-- Of the texts that come later, two decide: one with the highest number, and one that differs from
it. -/
theorem reconcile_of_two {start texts : KeySet String} {more : List String}
    (hmem : ∀ text, text ∈ texts.keys ↔ text ∈ start.keys ∨ text ∈ more) (v : Version) :
    reconcile texts v = reconcile start v ∨ ∃ text ∈ more, ∃ text' ∈ more,
      reconcile texts v = reconcile ((start.add text).add text') v := by
  have hstart : start.keys ⊆ texts.keys := fun text htext => (hmem text).mpr (.inl htext)
  by_cases hraise : 1 < texts.size ∧ 0 < v.highestBuild texts.keys
  · obtain ⟨hsize, hpos⟩ := hraise
    rcases v.highestBuild_attained texts.keys with hzero | ⟨text, htext, hcounted⟩
    · omega
    · obtain ⟨text', htext', hne⟩ := Table.exists_ne_of_one_lt_size hsize text
      -- the two texts may each be there at the start or come later
      have hpart : ∀ a ∈ more, ∀ b ∈ more, text ∈ ((start.add a).add b).keys →
          text' ∈ ((start.add a).add b).keys →
          reconcile texts v = reconcile ((start.add a).add b) v := by
        intro a ha b hb hin hin'
        refine (reconcile_of_subset (fun t ht => ?_) hin hin' hne hcounted).symm
        rw [KeySet.mem_keys_add, KeySet.mem_keys_add] at ht
        rcases ht with rfl | rfl | ht
        · exact (hmem t).mpr (.inr hb)
        · exact (hmem t).mpr (.inr ha)
        · exact hstart ht
      simp only [KeySet.mem_keys_add] at hpart
      rcases (hmem text).mp htext with hin | hin <;> rcases (hmem text').mp htext' with hin' | hin'
      · exact .inl (reconcile_of_subset hstart hin hin' hne hcounted).symm
      · exact .inr ⟨text', hin', text', hin', hpart _ hin' _ hin' (by simp [hin]) (by simp)⟩
      · exact .inr ⟨text, hin, text, hin, hpart _ hin _ hin (by simp) (by simp [hin'])⟩
      · exact .inr ⟨text, hin, text', hin', hpart _ hin _ hin' (by simp) (by simp)⟩
  · left
    rw [reconcile, if_neg hraise, reconcile, if_neg]
    rintro ⟨hsize, hpos⟩
    exact hraise ⟨Table.one_lt_size_of_subset hstart hsize,
      Nat.lt_of_lt_of_le hpos (highestBuild_mono hstart)⟩

/-! ## Where the order is of no matter -/

/-- The texts of some modules, come out as they do directly, change none of the others. -/
theorem Steady.settledText_eq (hsteady : Steady osgi items) {front : List (Coordinate × Version)}
    {item : Coordinate × Version} (hitem : item ∈ items)
    (hfront : ∀ other ∈ front, other ∈ items ∧ other.1 ≠ item.1) {texts : KeySet String}
    (hmem : ∀ text, text ∈ texts.keys ↔
      text ∈ (numberedTexts osgi items).keys ∨ text ∈ front.map (directText osgi items)) :
    settledText osgi texts item = directText osgi items item := by
  rcases reconcile_of_two hmem item.2 with hstart | ⟨text, htext, text', htext', htwo⟩
  · rw [settledText, hstart]
    rfl
  · obtain ⟨other, hother, rfl⟩ := List.mem_map.mp htext
    obtain ⟨other', hother', rfl⟩ := List.mem_map.mp htext'
    obtain ⟨hin, hne⟩ := hfront other hother
    obtain ⟨hin', hne'⟩ := hfront other' hother'
    rw [settledText, htwo]
    exact hsteady item hitem other hin other' hin' hne hne'

/-- Step by step, the texts are those of the start and those that come out directly. -/
theorem Steady.mem_foldl_grow (hsteady : Steady osgi items) {front : List (Coordinate × Version)}
    (hfront : front ⊆ items) (hkeys : (front.map Prod.fst).Nodup) (text : String) :
    text ∈ (front.foldl (grow osgi) (numberedTexts osgi items)).keys ↔
      text ∈ (numberedTexts osgi items).keys ∨ text ∈ front.map (directText osgi items) := by
  -- from the back: the last module is settled with the texts that the ones before it leave
  induction front using List.reverseRecOn generalizing text with
  | nil => simp
  | append_singleton front item ih =>
    obtain ⟨hfront, hitem⟩ := List.append_subset.mp hfront
    rw [List.map_append, List.nodup_append] at hkeys
    obtain ⟨hkeys, _, hne⟩ := hkeys
    have hothers : ∀ other ∈ front, other ∈ items ∧ other.1 ≠ item.1 := fun other hother =>
      ⟨hfront hother, hne _ (List.mem_map_of_mem hother) _ (by simp)⟩
    have hdirect := hsteady.settledText_eq (hitem (List.mem_singleton.mpr rfl)) hothers
      (ih hfront hkeys)
    rw [List.foldl_append, List.foldl_cons, List.foldl_nil, grow, KeySet.mem_keys_add, hdirect,
      ih hfront hkeys]
    simp only [List.map_append, List.map_cons, List.map_nil, List.mem_append, List.mem_singleton]
    tauto

/-- If modules are steady, each one comes out in any order as if it came first. -/
theorem Steady.get?_changesOf (hsteady : Steady osgi items) (hkeys : (items.map Prod.fst).Nodup)
    {items' : List (Coordinate × Version)} (hperm : items'.Perm items)
    {item : Coordinate × Version} (hitem : item ∈ items) :
    (changesOf osgi items').get? item.1 =
      if item.1.version ≠ directText osgi items item then some (directText osgi items item)
      else none := by
  obtain ⟨front, later, hsplit⟩ := List.append_of_mem (hperm.mem_iff.mpr hitem)
  have hkeys' : (items'.map Prod.fst).Nodup := (hperm.map Prod.fst).nodup_iff.mpr hkeys
  have hfront : front ⊆ items := fun other hother =>
    hperm.subset (hsplit ▸ List.mem_append_left _ hother)
  have hnodup : (front.map Prod.fst ++ item.1 :: later.map Prod.fst).Nodup := by
    rw [hsplit, List.map_append, List.map_cons] at hkeys'
    exact hkeys'
  obtain ⟨hfrontKeys, _, hne⟩ := List.nodup_append.mp hnodup
  have hothers : ∀ other ∈ front, other ∈ items ∧ other.1 ≠ item.1 := fun other hother =>
    ⟨hfront hother, hne _ (List.mem_map_of_mem hother) _ (List.mem_cons_self ..)⟩
  have htext := hsteady.settledText_eq hitem hothers (hsteady.mem_foldl_grow hfront hfrontKeys)
  rw [VersionChanges.get?_changesOf hsplit hkeys', numberedTexts_perm hperm]
  simp only [htext]

theorem Steady.changesOf_perm (hsteady : Steady osgi items) (hkeys : (items.map Prod.fst).Nodup)
    {items' : List (Coordinate × Version)} (hperm : items'.Perm items) :
    changesOf osgi items' = changesOf osgi items := by
  refine Table.eq_of_get? fun coordinate => ?_
  by_cases hlisted : ∃ item ∈ items, item.1 = coordinate
  · obtain ⟨item, hitem, rfl⟩ := hlisted
    rw [hsteady.get?_changesOf hkeys hperm hitem, hsteady.get?_changesOf hkeys (.refl _) hitem]
  · have hne : ∀ item ∈ items, item.1 ≠ coordinate := fun item hitem heq =>
      hlisted ⟨item, hitem, heq⟩
    rw [changesOf, get?_foldl_settle_of_ne fun item hitem => hne item (hperm.subset hitem),
      changesOf, get?_foldl_settle_of_ne hne]

/-! ## Where the order matters -/

/-- If the order is of no matter, a module comes out as it does directly, whatever comes first. -/
theorem settledText_eq_of_changesOf_perm (hkeys : (items.map Prod.fst).Nodup)
    (hsame : ∀ items' : List (Coordinate × Version), items'.Perm items →
      changesOf osgi items' = changesOf osgi items)
    (front : List (Coordinate × Version)) (item : Coordinate × Version)
    (hnodup : (front ++ [item]).Nodup) (hsub : front ++ [item] ⊆ items) :
    settledText osgi (front.foldl (grow osgi) (numberedTexts osgi items)) item =
      directText osgi items item := by
  -- the changes are the same with the module behind any others, and with the module in front
  have htext : ∀ front : List (Coordinate × Version), (front ++ [item]).Nodup →
      front ++ [item] ⊆ items → (changesOf osgi items).getD item.1 item.1.version =
        settledText osgi (front.foldl (grow osgi) (numberedTexts osgi items)) item := by
    intro front hnodup hsub
    obtain ⟨part, hpart, hsublist⟩ := List.subperm_of_subset hnodup hsub
    obtain ⟨later, hlater⟩ := hsublist.exists_perm_append
    have hperm : (front ++ item :: later).Perm items := by
      refine List.Perm.trans ?_ hlater.symm
      rw [← List.singleton_append, ← List.append_assoc]
      exact hpart.symm.append_right later
    rw [← hsame _ hperm, getD_changesOf rfl ((hperm.map Prod.fst).nodup_iff.mpr hkeys),
      numberedTexts_perm hperm]
  have hitem : [item] ⊆ items := fun x hx => hsub (List.mem_append_right front hx)
  exact (htext front hnodup hsub).symm.trans (htext [] (List.nodup_singleton item) hitem)

/-- If no order of the modules changes anything, they are steady: put one or two of them in front of
a third. -/
theorem steady_of_changesOf_perm (hkeys : (items.map Prod.fst).Nodup)
    (hsame : ∀ items' : List (Coordinate × Version), items'.Perm items →
      changesOf osgi items' = changesOf osgi items) : Steady osgi items := by
  intro item hitem other hother other' hother' hne hne'
  have hitem_ne : other ≠ item := fun heq => hne (congrArg Prod.fst heq)
  have hitem_ne' : other' ≠ item := fun heq => hne' (congrArg Prod.fst heq)
  by_cases heq : other = other'
  · -- one other module
    subst heq
    have htext := settledText_eq_of_changesOf_perm hkeys hsame [other] item
      (by simp [hitem_ne]) (by simp [hitem, hother])
    have htwice : ∀ (texts : KeySet String) text, (texts.add text).add text = texts.add text :=
      fun texts text => KeySet.eq_of_mem_keys fun k => by simp [KeySet.mem_keys_add]
    rw [htwice]
    exact htext
  · have htext := settledText_eq_of_changesOf_perm hkeys hsame [other, other'] item
      (by simp [hitem_ne, hitem_ne', heq]) (by simp [hitem, hother, hother'])
    have hsecond := settledText_eq_of_changesOf_perm hkeys hsame [other] other'
      (by simp [heq]) (by simp [hother, hother'])
    simp only [List.foldl_cons, List.foldl_nil, grow] at htext hsecond
    rw [hsecond] at htext
    exact htext

/-! ## Versions that are read back -/

theorem mem_numberedTexts {text : String} :
    text ∈ (numberedTexts osgi items).keys ↔
      ∃ item ∈ items, item.2.hasBuildNumber = true ∧ item.2.renderAs osgi = text := by
  simp only [numberedTexts, KeySet.mem_keys_ofList, List.mem_filterMap, numbered?,
    Option.ite_none_right_eq_some, Option.some.injEq]

/-- As long as at most one text has a number, versions come out directly as they are. -/
theorem directText_of_size_le_one (hsize : (numberedTexts osgi items).size ≤ 1)
    (item : Coordinate × Version) : directText osgi items item = item.2.renderAs osgi := by
  rw [directText, settledText, reconcile, if_neg fun h => Nat.not_lt.mpr hsize h.1]

/-- One single text has a number, and of two modules without a number one has its base. -/
structure LoneNumber (osgi : Bool) (items : List (Coordinate × Version)) : Prop where
  single : (numberedTexts osgi items).size = 1
  unnumbered : ∃ item ∈ items, ∃ other ∈ items, other.1 ≠ item.1 ∧
    item.2.hasBuildNumber = false ∧ other.2.hasBuildNumber = false ∧
    0 < item.2.highestBuild (numberedTexts osgi items).keys

section

variable (hreadable : ∀ item ∈ items, item.2.Readable osgi)

include hreadable

/-- A module whose number is raised comes out with its base and the highest number. -/
theorem parse_settledText_of_raise {item : Coordinate × Version} (hitem : item ∈ items)
    {texts : KeySet String} (hraise : 1 < texts.size ∧ 0 < item.2.highestBuild texts.keys) :
    (parse (settledText osgi texts item)).base = item.2.base ∧
      (parse (settledText osgi texts item)).buildNumber =
        some (item.2.highestBuild texts.keys) := by
  obtain ⟨hbase, hnumber⟩ :=
    (hreadable item hitem).raised _ (item.2.highestBuild_lt_maxWord texts.keys)
  rw [settledText, reconcile, if_pos hraise]
  exact ⟨hbase, hnumber.trans (buildNumber_setBuild ..)⟩

/-- What a module comes out with directly counts no more than the texts of the start. -/
theorem countedBuild?_directText_le {item : Coordinate × Version} (hitem : item ∈ items)
    {v : Version} {n : Nat} (hn : countedBuild? v.base (directText osgi items item) = some n) :
    n ≤ v.highestBuild (numberedTexts osgi items).keys := by
  obtain ⟨hbase, hnumber, _⟩ := countedBuild?_eq_some_iff.mp hn
  by_cases hraise : 1 < (numberedTexts osgi items).size ∧
      0 < item.2.highestBuild (numberedTexts osgi items).keys
  · obtain ⟨hraisedBase, hraisedNumber⟩ := parse_settledText_of_raise hreadable hitem hraise
    have hsame : item.2.base = v.base := hraisedBase.symm.trans hbase
    rw [← highestBuild_congr hsame]
    exact Nat.le_of_eq (Option.some.inj (hnumber.symm.trans hraisedNumber))
  · have hdirect : directText osgi items item = item.2.renderAs osgi := by
      rw [directText, settledText, reconcile, if_neg hraise]
    rw [hdirect] at hn hnumber
    have hbuild : item.2.hasBuildNumber = true := by
      rw [(hreadable item hitem).direct.2] at hnumber
      obtain ⟨b, hb, _⟩ := Option.map_eq_some_iff.mp hnumber
      rw [hasBuildNumber, hb]
      rfl
    exact le_highestBuild (mem_numberedTexts.mpr ⟨item, hitem, hbuild, rfl⟩) hn

theorem highestBuild_of_directTexts {texts : KeySet String}
    (hstart : (numberedTexts osgi items).keys ⊆ texts.keys)
    (hmem : ∀ text ∈ texts.keys, text ∈ (numberedTexts osgi items).keys ∨
      ∃ item ∈ items, directText osgi items item = text) (v : Version) :
    v.highestBuild texts.keys = v.highestBuild (numberedTexts osgi items).keys := by
  refine Nat.le_antisymm ?_ (highestBuild_mono hstart)
  rcases v.highestBuild_attained texts.keys with hzero | ⟨text, htext, hcounted⟩
  · omega
  · rcases hmem text htext with hin | ⟨item, hitem, rfl⟩
    · exact le_highestBuild hin hcounted
    · exact countedBuild?_directText_le hreadable hitem hcounted

/-- A version with the single numbered text has the highest number of its base. -/
theorem setBuild_of_single (hsize : (numberedTexts osgi items).size ≤ 1)
    {item : Coordinate × Version} (hitem : item ∈ items) (hnumbered : item.2.hasBuildNumber = true)
    (hpos : 0 < item.2.highestBuild (numberedTexts osgi items).keys) :
    item.2.setBuild (item.2.highestBuild (numberedTexts osgi items).keys) = item.2 := by
  rcases item.2.highestBuild_attained (numberedTexts osgi items).keys with
    hzero | ⟨text, htext, hcounted⟩
  · omega
  · have hown : item.2.renderAs osgi ∈ (numberedTexts osgi items).keys :=
      mem_numberedTexts.mpr ⟨item, hitem, hnumbered, rfl⟩
    obtain rfl := Table.eq_of_size_le_one hsize htext hown
    refine setBuild_of_buildNumber ?_
    rw [← (hreadable item hitem).direct.2]
    exact (countedBuild?_eq_some_iff.mp hcounted).2.1

/-- Without a lone number the second pass counts no text of a module without a number, so what the
others come out with does not matter. -/
theorem steady_of_not_loneNumber (hlone : ¬ LoneNumber osgi items) : Steady osgi items := by
  intro item hitem other hother other' hother' hne hne'
  have hmem : ∀ text, text ∈ (((numberedTexts osgi items).add (directText osgi items other)).add
      (directText osgi items other')).keys ↔ text ∈ (numberedTexts osgi items).keys ∨
        ∃ one ∈ items, one.1 ≠ item.1 ∧ (one = other ∨ one = other') ∧
          directText osgi items one = text := by
    intro text
    rw [KeySet.mem_keys_add, KeySet.mem_keys_add]
    grind
  revert hmem
  generalize ((numberedTexts osgi items).add (directText osgi items other)).add
    (directText osgi items other') = texts
  intro hmem
  have hstart : (numberedTexts osgi items).keys ⊆ texts.keys := fun text htext =>
    (hmem text).mpr (.inl htext)
  have hhighest := highestBuild_of_directTexts hreadable hstart (fun text htext =>
    ((hmem text).mp htext).imp_right fun ⟨one, hone, _, _, heq⟩ => ⟨one, hone, heq⟩) item.2
  refine congrArg (renderAs · osgi) ?_
  rw [reconcile, reconcile, hhighest]
  by_cases hraise : 1 < texts.size ∧ 0 < item.2.highestBuild (numberedTexts osgi items).keys
  · rw [if_pos hraise]
    obtain ⟨hsize, hpos⟩ := hraise
    by_cases hmany : 1 < (numberedTexts osgi items).size
    · rw [if_pos ⟨hmany, hpos⟩]
    · -- the second text is that of a module without a number, so this one has the single number
      rw [if_neg fun h => hmany h.1]
      have hle := Nat.not_lt.mp hmany
      obtain ⟨text, htext, _⟩ :=
        (item.2.highestBuild_attained (numberedTexts osgi items).keys).resolve_left hpos.ne'
      obtain ⟨text', htext', hdifferent⟩ := Table.exists_ne_of_one_lt_size hsize text
      have hnew : text' ∉ (numberedTexts osgi items).keys := fun hin =>
        hdifferent (Table.eq_of_size_le_one hle hin htext)
      obtain ⟨one, hone, hneOne, _, rfl⟩ := ((hmem text').mp htext').resolve_left hnew
      have hunnumbered : one.2.hasBuildNumber = false := by
        rw [directText_of_size_le_one hle, mem_numberedTexts] at hnew
        exact Bool.eq_false_iff.mpr fun hnumber => hnew ⟨one, hone, hnumber, rfl⟩
      have hsingle : (numberedTexts osgi items).size = 1 := by
        have hlength := List.length_pos_of_mem htext
        rw [Table.keys, List.length_map] at hlength
        exact Nat.le_antisymm hle hlength
      have hnumbered : item.2.hasBuildNumber = true := by
        by_contra hnone
        exact hlone ⟨hsingle, item, hitem, one, hone, hneOne, by simpa using hnone, hunnumbered,
          hpos⟩
      exact setBuild_of_single hreadable hle hitem hnumbered hpos
  · rw [if_neg hraise, if_neg]
    exact fun h => hraise ⟨Table.one_lt_size_of_subset hstart h.1, h.2⟩

/-- With a lone number, a module without a number is given that number as soon as another one
without a number was settled. -/
theorem not_steady_of_loneNumber (hlone : LoneNumber osgi items) : ¬ Steady osgi items := by
  obtain ⟨hsingle, item, hitem, other, hother, hne, hnone, hnoneOther, hpos⟩ := hlone
  intro hsteady
  have hle := Nat.le_of_eq hsingle
  have htext := hsteady item hitem other hother other hother hne hne
  have hnumber : ∀ one ∈ items, one.2.hasBuildNumber = false →
      (parse (directText osgi items one)).buildNumber = none := by
    intro one hone hnone
    rw [directText_of_size_le_one hle, (hreadable one hone).direct.2, buildNumber]
    simpa [hasBuildNumber] using hnone
  obtain ⟨text, hin, hcounted⟩ :=
    (item.2.highestBuild_attained (numberedTexts osgi items).keys).resolve_left hpos.ne'
  have hstart : (numberedTexts osgi items).keys ⊆ (((numberedTexts osgi items).add
      (directText osgi items other)).add (directText osgi items other)).keys := by
    intro text htext
    simp [KeySet.mem_keys_add, htext]
  have hdifferent : directText osgi items other ≠ text := by
    rintro rfl
    have hsome := (countedBuild?_eq_some_iff.mp hcounted).2.1
    rw [hnumber other hother hnoneOther] at hsome
    cases hsome
  have hraise := And.intro
    (Table.one_lt_size (hstart hin) (by simp [KeySet.mem_keys_add]) hdifferent)
    (Nat.lt_of_lt_of_le hpos (highestBuild_mono (v := item.2) hstart))
  have hsome := (parse_settledText_of_raise hreadable hitem hraise).2
  rw [htext, hnumber item hitem hnone] at hsome
  cases hsome

theorem steady_iff_not_loneNumber : Steady osgi items ↔ ¬ LoneNumber osgi items :=
  ⟨fun hsteady hlone => not_steady_of_loneNumber hreadable hlone hsteady,
    steady_of_not_loneNumber hreadable⟩

end

/-! ## The modules of a reactor -/

section

variable {r : Reactor} {ids : List Nat} (hids : ids.Perm r.ids)

include hids

theorem rebuiltItems_reorder (policy : VersionPolicy) (c : Candidates) :
    rebuiltItems (r.reorder ids hids) policy c = ids.filterMap (rebuilt? r policy c) := by
  rw [rebuiltItems, Reactor.ids_reorder, List.filterMap_map]
  refine List.filterMap_congr fun id hid => ?_
  have hinside : id < r.size := List.mem_range.mp (hids.mem_iff.mp hid)
  rw [Function.comp_apply, rebuilt?, rebuilt?, Reactor.version?_reorder hids hinside,
    Reactor.artifact_reorder hids hinside]

theorem ofPolicy_reorder (policy : VersionPolicy) (osgi : Bool) (c : Candidates) :
    ofPolicy (r.reorder ids hids) policy osgi c =
      changesOf osgi (ids.filterMap (rebuilt? r policy c)) := by
  rw [← rebuiltItems_reorder hids]
  rfl

end

/-- A policy makes the same changes in whatever order the modules are. -/
def SameInAnyOrder (r : Reactor) (policy : VersionPolicy) (osgi : Bool) (c : Candidates) : Prop :=
  ∀ (ids : List Nat) (hids : ids.Perm r.ids),
    ofPolicy (r.reorder ids hids) policy osgi c = ofPolicy r policy osgi c

section

variable {r : Reactor} (hdistinct : (r.ids.map r.artifact).Nodup) (policy : VersionPolicy)
  (c : Candidates)

include hdistinct

theorem nodup_coordinates :
    ((rebuiltItems r policy c).map Prod.fst).Nodup := by
  refine List.pairwise_map.mpr (List.pairwise_filterMap.mpr ?_)
  refine (List.pairwise_map.mp hdistinct).imp fun hne item hitem item' hitem' heq => ?_
  obtain ⟨_, _, rfl⟩ := Option.map_eq_some_iff.mp hitem
  obtain ⟨_, _, rfl⟩ := Option.map_eq_some_iff.mp hitem'
  exact hne (congrArg Coordinate.artifact heq)

theorem sameInAnyOrder_iff_steady (osgi : Bool) :
    SameInAnyOrder r policy osgi c ↔ Steady osgi (rebuiltItems r policy c) := by
  have hkeys := nodup_coordinates hdistinct policy c
  constructor
  · intro hsame
    refine steady_of_changesOf_perm hkeys fun items' hperm => ?_
    obtain ⟨ids, hids, rfl⟩ := exists_perm_filterMap hperm rfl
    rw [← ofPolicy_reorder hids]
    exact hsame ids hids
  · intro hsteady ids hids
    rw [ofPolicy_reorder hids]
    exact hsteady.changesOf_perm hkeys (hids.filterMap _)

end

/-- The order of the modules matters for their new versions exactly if two texts beside the numbered
ones change what a third module comes out with. Where texts are read back, this is the case exactly
if one single text has a number: then the second pass counts the texts of modules without a number
as well, and gives that number to those that come later. -/
theorem ofPolicy_reorder_iff {r : Reactor} (hdistinct : (r.ids.map r.artifact).Nodup)
    (policy : VersionPolicy) (osgi : Bool) (c : Candidates) :
    (SameInAnyOrder r policy osgi c ↔ Steady osgi (rebuiltItems r policy c)) ∧
      ((∀ item ∈ rebuiltItems r policy c, item.2.Readable osgi) →
        (SameInAnyOrder r policy osgi c ↔ ¬ LoneNumber osgi (rebuiltItems r policy c))) := by
  have hsteady := sameInAnyOrder_iff_steady hdistinct policy c osgi
  exact ⟨hsteady, fun hreadable => hsteady.trans (steady_iff_not_loneNumber hreadable)⟩

/-- Versions with a number, with none, and with a higher number; the first module is a child of the
last. -/
def twoNumbers : Reactor where
  modules := [
    { name := "lib", version := some "1.0-5", parentModule := some 2
      parent := some { group := "org.a", name := "root", version := "1.0-7" } },
    { group := some "org.a", name := "tool", version := some "1.0" },
    { group := some "org.a", name := "root", version := some "1.0-7" }]
  forest := Reactor.forest_of_checks (by simp) (by decide) (by decide)

def oneDotZero (number : Option (Char × List Char))
    (hnumber : ∀ n ∈ number, (n.1 = '.' ∨ n.1 = '-') ∧ Text.isNumeral n.2 = true) : PlainText where
  core := [['1'], ['0']]
  core_ne_nil := List.cons_ne_nil _ _
  core_numerals := by decide
  label := none
  label_words := nofun
  number := number
  number_digits := hnumber
  marker := none
  marker_spelling := nofun

theorem readable_twoNumbers :
    ∀ item ∈ rebuiltItems twoNumbers {} ∅, item.2.Readable false := by
  have hitems : ∀ item ∈ rebuiltItems twoNumbers {} ∅,
      ∃ text ∈ ["1.0-5", "1.0", "1.0-7"], item.2 = parse text := by
    decide +kernel
  have hplain : ∀ text ∈ ["1.0-5", "1.0", "1.0-7"], IsPlain text := by
    rw [List.forall_mem_cons, List.forall_mem_cons, List.forall_mem_singleton]
    exact ⟨⟨oneDotZero (some ('-', ['5'])) (by decide), by decide⟩,
      ⟨oneDotZero none (by decide), by decide⟩,
      ⟨oneDotZero (some ('-', ['7'])) (by decide), by decide⟩⟩
  intro item hitem
  obtain ⟨text, htext, heq⟩ := hitems item hitem
  rw [heq]
  exact (hplain text htext).tidy_parse.readable

theorem sameInAnyOrder_twoNumbers :
    (twoNumbers.ids.map twoNumbers.artifact).Nodup ∧
      SameInAnyOrder twoNumbers {} false ∅ := by
  have hdistinct : (twoNumbers.ids.map twoNumbers.artifact).Nodup := by decide +kernel
  obtain ⟨_, hreadable⟩ := ofPolicy_reorder_iff hdistinct {} false ∅
  refine ⟨hdistinct, (hreadable readable_twoNumbers).mpr fun hlone => ?_⟩
  have hsize : (numberedTexts false (rebuiltItems twoNumbers {} ∅)).size = 2 := by decide +kernel
  rw [hlone.single] at hsize
  exact absurd hsize (by decide)

/-- A version with the suffix and a number, and two versions without a suffix. -/
def oneNumber : Reactor where
  modules := [
    { group := some "org.a", name := "x", version := some "1.0.redhat-5" },
    { group := some "org.a", name := "y", version := some "1.0" },
    { group := some "org.a", name := "z", version := some "1.0" }]
  forest := Reactor.forest_of_checks (by simp) (by decide) (by decide)

def unnumberedRedhat : VersionPolicy where
  suffix := .fixed "redhat"

theorem perm_oneNumber : [0, 2, 1].Perm oneNumber.ids := by
  decide

/-- Of the two modules without a number, the one that comes last gets the number. -/
theorem order_changes_oneNumber :
    (oneNumber.ids.map oneNumber.artifact).Nodup ∧
      (ofPolicy oneNumber unnumberedRedhat false ∅).values = ["1.0.redhat", "1.0.redhat-5"] ∧
      (ofPolicy (oneNumber.reorder [0, 2, 1] perm_oneNumber) unnumberedRedhat false ∅).values =
        ["1.0.redhat-5", "1.0.redhat"] ∧
      ¬ SameInAnyOrder oneNumber unnumberedRedhat false ∅ := by
  have hgiven : (ofPolicy oneNumber unnumberedRedhat false ∅).values =
      ["1.0.redhat", "1.0.redhat-5"] := by
    decide +kernel
  have hswapped : (ofPolicy (oneNumber.reorder [0, 2, 1] perm_oneNumber) unnumberedRedhat false
      ∅).values = ["1.0.redhat-5", "1.0.redhat"] := by
    decide +kernel
  refine ⟨by decide +kernel, hgiven, hswapped, fun hsame => ?_⟩
  rw [hsame, hgiven] at hswapped
  exact absurd hswapped (by decide)

end VersionChanges

end BuildAlign
