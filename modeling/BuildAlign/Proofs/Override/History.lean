import BuildAlign.Proofs.Override.Layers
import Mathlib.Data.List.Induction
import Mathlib.Data.List.Nodup
import Mathlib.Data.Nat.Find

/-!
Override maps after any series of calls. An entry that is inserted stays where it is until a removal
drops it, and meanwhile no other entry of its coordinate gets in, of whatever source. So the entries
of a map are told by the history alone: for every coordinate it is the first insertion after the
last removal that dropped it, and the entries are in the order of these insertions.
-/

namespace BuildAlign.OverrideMap

/-! ## Calls and events -/

/-- Keeps the entries that pass a test. It is put to one entry after the other, and may depend on
the ones it was put to before. -/
def retainInTurn (m : OverrideMap) (keep : List OverrideEntry → OverrideEntry → Bool) :
    OverrideMap :=
  m.retain fun e => keep (m.entries.takeWhile (· != e)) e

inductive Call where
  | insert (e : OverrideEntry)
  | extend (other : OverrideMap)
  | retain (keep : List OverrideEntry → OverrideEntry → Bool)
  | without (artifacts : KeySet Artifact)

def Call.apply (m : OverrideMap) : Call → OverrideMap
  | insert e => m.insert e
  | extend other => m.extend other
  | retain keep => m.retainInTurn keep
  | without artifacts => m.without artifacts

def run (calls : List Call) : OverrideMap :=
  calls.foldl Call.apply ∅

/-- What a call does, one insertion at a time. -/
inductive Event where
  | insertion (e : OverrideEntry)
  | removal (keep : List OverrideEntry → OverrideEntry → Bool)

namespace Event

def apply (m : OverrideMap) : Event → OverrideMap
  | insertion e => m.insert e
  | removal keep => m.retainInTurn keep

/-- The map has an entry of the coordinate, which fails the test of the removal. -/
def Drops (m : OverrideMap) (target : Coordinate) : Event → Prop
  | insertion _ => False
  | removal keep =>
    ∃ e ∈ m.entries, e.target = target ∧ keep (m.entries.takeWhile (· != e)) e = false

end Event

def Call.events : Call → List Event
  | insert e => [.insertion e]
  | extend other => other.entries.map .insertion
  | retain keep => [.removal keep]
  | without artifacts => [.removal fun _ e => !artifacts.contains e.artifact]

def history (calls : List Call) : List Event :=
  calls.flatMap Call.events

def replay (events : List Event) : OverrideMap :=
  events.foldl Event.apply ∅

/-! ## Insertions that count -/

/-- The event at this place is a removal that dropped the coordinate from the map of then. -/
def DroppedAt (events : List Event) (target : Coordinate) (i : Nat) : Prop :=
  ∃ event, events[i]? = some event ∧ event.Drops (replay (events.take i)) target

/-- The entry was inserted at this place, after the last removal that dropped its coordinate, if
there is one. -/
structure Remaining (events : List Event) (e : OverrideEntry) (i : Nat) : Prop where
  inserted : events[i]? = some (.insertion e)
  kept : ∀ j, i < j → ¬ DroppedAt events e.target j

/-- The earliest such insertion of the coordinate. -/
structure Standing (events : List Event) (e : OverrideEntry) (i : Nat) : Prop extends
    Remaining events e i where
  earliest : ∀ e' j, e'.target = e.target → Remaining events e' j → i ≤ j

/-- The entries of a map are the standing insertions, in their order. -/
structure Follows (events : List Event) (m : OverrideMap) : Prop where
  mem_iff : ∀ e, e ∈ m.entries ↔ ∃ i, Standing events e i
  ordered : m.entries.Pairwise fun e e' =>
    ∀ i j, Standing events e i → Standing events e' j → i < j

variable {m : OverrideMap} {events : List Event} {event : Event} {e : OverrideEntry}
  {target : Coordinate} {i : Nat}

theorem Remaining.lt (h : Remaining events e i) : i < events.length :=
  (List.getElem?_eq_some_iff.mp h.inserted).1

/-- If a coordinate was inserted after it was last dropped, there is an earliest such insertion. -/
theorem Remaining.exists_standing (h : Remaining events e i) :
    ∃ e' j, e'.target = e.target ∧ Standing events e' j := by
  have hsome : ∃ j e', e'.target = e.target ∧ Remaining events e' j := ⟨i, e, rfl, h⟩
  classical
  obtain ⟨e', htarget, hremaining⟩ := Nat.find_spec hsome
  refine ⟨e', Nat.find hsome, htarget, hremaining, fun e'' j hsame hearlier => ?_⟩
  exact Nat.find_min' hsome ⟨e'', hsame.trans htarget, hearlier⟩

theorem Follows.mem_targets_iff (h : Follows events m) :
    target ∈ m.entries.map OverrideEntry.target ↔
      ∃ e i, e.target = target ∧ Remaining events e i := by
  rw [List.mem_map]
  constructor
  · rintro ⟨e, he, htarget⟩
    obtain ⟨i, hstanding⟩ := (h.mem_iff e).mp he
    exact ⟨e, i, htarget, hstanding.toRemaining⟩
  · rintro ⟨e, i, rfl, hremaining⟩
    obtain ⟨e', j, htarget, hstanding⟩ := hremaining.exists_standing
    exact ⟨e', (h.mem_iff e').mpr ⟨j, hstanding⟩, htarget⟩

/-! ## One more event -/

theorem replay_concat (events : List Event) (event : Event) :
    replay (events ++ [event]) = event.apply (replay events) := by
  rw [replay, List.foldl_append]
  rfl

theorem droppedAt_concat :
    DroppedAt (events ++ [event]) target i ↔
      DroppedAt events target i ∨ i = events.length ∧ event.Drops (replay events) target := by
  rcases Nat.lt_trichotomy i events.length with hlt | rfl | hgt
  · rw [DroppedAt, DroppedAt, List.getElem?_append_left hlt,
      List.take_append_of_le_length (Nat.le_of_lt hlt)]
    exact (or_iff_left fun h => Nat.ne_of_lt hlt h.1).symm
  · simp [DroppedAt]
  · have hnone : (events ++ [event])[i]? = none := by
      rw [List.getElem?_eq_none_iff, List.length_append, List.length_singleton]
      omega
    have hbeyond : events[i]? = none := List.getElem?_eq_none_iff.mpr (Nat.le_of_lt hgt)
    simp [DroppedAt, hnone, hbeyond, Nat.ne_of_gt hgt]

/-- What remains after one more event remained before and is not dropped by it, or is its own
insertion. -/
theorem remaining_concat :
    Remaining (events ++ [event]) e i ↔
      (Remaining events e i ∧ ¬ event.Drops (replay events) e.target) ∨
        (i = events.length ∧ event = .insertion e) := by
  constructor
  · rintro ⟨hinserted, hkept⟩
    rcases Nat.lt_or_ge i events.length with hlt | hge
    · rw [List.getElem?_append_left hlt] at hinserted
      refine .inl ⟨⟨hinserted, fun j hj hdropped => ?_⟩, fun hdrops => ?_⟩
      · exact hkept j hj (droppedAt_concat.mpr (.inl hdropped))
      · exact hkept _ hlt (droppedAt_concat.mpr (.inr ⟨rfl, hdrops⟩))
    · obtain ⟨hbound, -⟩ := List.getElem?_eq_some_iff.mp hinserted
      rw [List.length_append, List.length_singleton] at hbound
      obtain rfl : i = events.length := by omega
      rw [List.getElem?_concat_length] at hinserted
      exact .inr ⟨rfl, Option.some.inj hinserted⟩
  · rintro (⟨hremaining, hstays⟩ | ⟨rfl, rfl⟩)
    · refine ⟨?_, fun j hj hdropped => ?_⟩
      · rw [List.getElem?_append_left hremaining.lt]
        exact hremaining.inserted
      · rcases droppedAt_concat.mp hdropped with hdropped | ⟨-, hdrops⟩
        · exact hremaining.kept j hj hdropped
        · exact hstays hdrops
    · refine ⟨List.getElem?_concat_length .., fun j hj hdropped => ?_⟩
      rcases droppedAt_concat.mp hdropped with ⟨later, hlater, -⟩ | ⟨heq, -⟩
      · exact absurd (List.getElem?_eq_some_iff.mp hlater).1 (by omega)
      · omega

/-- An insertion stands if no entry of its coordinate was there, and leaves the earlier ones. -/
theorem Follows.standing_insertion (h : Follows events (replay events)) (new : OverrideEntry) :
    Standing (events ++ [.insertion new]) e i ↔
      Standing events e i ∨
        (i = events.length ∧ e = new ∧
          new.target ∉ (replay events).entries.map OverrideEntry.target) := by
  have hremaining : ∀ {e i}, Remaining (events ++ [.insertion new]) e i ↔
      Remaining events e i ∨ (i = events.length ∧ new = e) := by
    intro e i
    simp [remaining_concat, Event.Drops]
  constructor
  · rintro ⟨hlast, hearliest⟩
    rcases hremaining.mp hlast with hold | ⟨rfl, rfl⟩
    · exact .inl ⟨hold, fun e' j hsame hj => hearliest e' j hsame (hremaining.mpr (.inl hj))⟩
    · refine .inr ⟨rfl, rfl, fun hpresent => ?_⟩
      obtain ⟨e', j, hsame, hj⟩ := h.mem_targets_iff.mp hpresent
      have hfirst := hearliest e' j hsame (hremaining.mpr (.inl hj))
      exact absurd hj.lt (Nat.not_lt.mpr hfirst)
  · rintro (⟨hold, hearliest⟩ | ⟨rfl, rfl, habsent⟩)
    · refine ⟨hremaining.mpr (.inl hold), fun e' j hsame hj => ?_⟩
      rcases hremaining.mp hj with hj | ⟨rfl, -⟩
      · exact hearliest e' j hsame hj
      · exact Nat.le_of_lt hold.lt
    · refine ⟨hremaining.mpr (.inr ⟨rfl, rfl⟩), fun e' j hsame hj => ?_⟩
      rcases hremaining.mp hj with hj | ⟨rfl, -⟩
      · exact absurd (h.mem_targets_iff.mpr ⟨e', j, hsame, hj⟩) habsent
      · exact le_rfl

/-- A removal drops the same insertions from those that stand. -/
theorem standing_removal (keep : List OverrideEntry → OverrideEntry → Bool) :
    Standing (events ++ [.removal keep]) e i ↔
      Standing events e i ∧ ¬ (Event.removal keep).Drops (replay events) e.target := by
  have hremaining : ∀ {e i}, Remaining (events ++ [.removal keep]) e i ↔
      Remaining events e i ∧ ¬ (Event.removal keep).Drops (replay events) e.target := by
    intro e i
    simp [remaining_concat]
  constructor
  · rintro ⟨hlast, hearliest⟩
    obtain ⟨hold, hstays⟩ := hremaining.mp hlast
    refine ⟨⟨hold, fun e' j hsame hj => ?_⟩, hstays⟩
    exact hearliest e' j hsame (hremaining.mpr ⟨hj, hsame ▸ hstays⟩)
  · rintro ⟨⟨hold, hearliest⟩, hstays⟩
    exact ⟨hremaining.mpr ⟨hold, hstays⟩, fun e' j hsame hj =>
      hearliest e' j hsame (hremaining.mp hj).1⟩

/-- An insertion of a coordinate that is there changes nothing. -/
theorem Follows.insertion_of_mem (h : Follows events (replay events)) {new : OverrideEntry}
    (hpresent : new.target ∈ (replay events).entries.map OverrideEntry.target) :
    Follows (events ++ [.insertion new]) ((replay events).insert new) := by
  have hstanding : ∀ {e i}, Standing (events ++ [.insertion new]) e i ↔ Standing events e i :=
    (h.standing_insertion new).trans (or_iff_left fun hlast => hlast.2.2 hpresent)
  have hsame : (replay events).insert new = replay events := dif_pos hpresent
  rw [hsame]
  constructor
  · simpa only [hstanding] using h.mem_iff
  · simpa only [hstanding] using h.ordered

/-- An insertion for a coordinate without an entry stands, at the end. -/
theorem Follows.insertion_of_not_mem (h : Follows events (replay events)) {new : OverrideEntry}
    (habsent : new.target ∉ (replay events).entries.map OverrideEntry.target) :
    Follows (events ++ [.insertion new]) ((replay events).insert new) := by
  have hnew : new ∉ (replay events).entries := fun hmem => habsent (List.mem_map_of_mem hmem)
  have hold : ∀ {e i}, e ∈ (replay events).entries →
      Standing (events ++ [.insertion new]) e i → Standing events e i := by
    intro e i he hlast
    rcases (h.standing_insertion new).mp hlast with hold | ⟨-, rfl, -⟩
    · exact hold
    · exact absurd he hnew
  have hentries := entries_insert habsent
  constructor
  · intro e
    rw [hentries, List.mem_append, List.mem_singleton, h.mem_iff]
    constructor
    · rintro (⟨i, hi⟩ | rfl)
      · exact ⟨i, (h.standing_insertion new).mpr (.inl hi)⟩
      · exact ⟨_, (h.standing_insertion e).mpr (.inr ⟨rfl, rfl, habsent⟩)⟩
    · rintro ⟨i, hi⟩
      rcases (h.standing_insertion new).mp hi with hold | ⟨-, rfl, -⟩
      · exact .inl ⟨i, hold⟩
      · exact .inr rfl
  · rw [hentries, List.pairwise_append]
    refine ⟨h.ordered.imp_of_mem ?_, List.pairwise_singleton .., ?_⟩
    · exact fun he he' hordered i j hi hj => hordered i j (hold he hi) (hold he' hj)
    · -- the new entry was inserted last
      intro e he e' he' i j hi hj
      rw [List.mem_singleton] at he'
      subst he'
      rcases (h.standing_insertion e').mp hj with hj | ⟨rfl, -⟩
      · exact absurd ((h.mem_iff e').mpr ⟨j, hj⟩) hnew
      · exact (hold he hi).lt

/-- A removal drops standing insertions and lets no earlier one stand again: what was kept out by an
entry does not come back with its removal. -/
theorem Follows.removal (h : Follows events (replay events))
    (keep : List OverrideEntry → OverrideEntry → Bool) :
    Follows (events ++ [.removal keep]) ((replay events).retainInTurn keep) := by
  -- the entry that is dropped is the only one of its coordinate
  have hdrops : ∀ e ∈ (replay events).entries,
      (¬ (Event.removal keep).Drops (replay events) e.target ↔
        keep ((replay events).entries.takeWhile (· != e)) e = true) := by
    intro e he
    rw [← Bool.not_eq_false, not_iff_not]
    constructor
    · rintro ⟨e', he', htarget, hfails⟩
      rwa [List.inj_on_of_nodup_map (replay events).distinct he' he htarget] at hfails
    · exact fun hfails => ⟨e, he, rfl, hfails⟩
  constructor
  · intro e
    simp only [standing_removal, exists_and_right, ← h.mem_iff]
    rw [retainInTurn, retain, List.mem_filter]
    exact and_congr_right fun he => (hdrops e he).symm
  · refine (h.ordered.filter _).imp fun hordered i j hi hj => ?_
    exact hordered i j ((standing_removal keep).mp hi).1 ((standing_removal keep).mp hj).1

/-! ## All events -/

theorem follows_replay (events : List Event) : Follows events (replay events) := by
  induction events using List.reverseRecOn with
  | nil =>
    constructor
    · intro e
      refine iff_of_false List.not_mem_nil ?_
      rintro ⟨i, hstanding⟩
      exact absurd hstanding.lt (Nat.not_lt_zero i)
    · exact .nil
  | append_singleton events event ih =>
    rw [replay_concat]
    cases event with
    | insertion e =>
      by_cases hpresent : e.target ∈ (replay events).entries.map OverrideEntry.target
      · exact ih.insertion_of_mem hpresent
      · exact ih.insertion_of_not_mem hpresent
    | removal keep => exact ih.removal keep

theorem Call.foldl_events (m : OverrideMap) (call : Call) :
    call.events.foldl Event.apply m = call.apply m := by
  cases call with
  | extend other => exact List.foldl_map ..
  | insert e => rfl
  | retain keep => rfl
  | without artifacts => rfl

theorem replay_history (calls : List Call) : replay (history calls) = run calls := by
  rw [replay, history, List.foldl_flatMap, run]
  congr 1
  funext m call
  exact call.foldl_events m

/-- After any calls, a coordinate is there exactly if it was inserted after the last removal that
dropped it; its entry is the first one that was inserted since, with the source of that one, and the
entries are in the order of these insertions. What is found for an artifact are its entries in this
order, or the first of them. -/
theorem run_by_insertions (calls : List Call) :
    let m := run calls
    let events := history calls
    (m.entries.map OverrideEntry.target).Nodup ∧
    (∀ target, target ∈ m.entries.map OverrideEntry.target ↔
      ∃ e i, e.target = target ∧ Remaining events e i) ∧
    (∀ e, e ∈ m.entries ↔ ∃ i, Standing events e i) ∧
    (m.entries.Pairwise fun e e' => ∀ i j, Standing events e i → Standing events e' j → i < j) ∧
    ∀ a, (m.entriesOf a).Sublist m.entries ∧
      (∀ e, e ∈ m.entriesOf a ↔ e ∈ m.entries ∧ e.artifact = a) ∧
      m.first? a = (m.entriesOf a).head? := by
  intro m events
  have hfollows : Follows events m := by
    have h := follows_replay events
    rwa [replay_history] at h
  refine ⟨m.distinct, fun target => hfollows.mem_targets_iff, hfollows.mem_iff, hfollows.ordered,
    fun a => ⟨List.filter_sublist, fun e => ?_, ?_⟩⟩
  · rw [entriesOf, List.mem_filter, beq_iff_eq]
  · exact (List.head?_filter ..).symm

/-- A coordinate that was dropped is open again to any source, behind the entries that are left. -/
example :
    let lib := ({ group := "org.a", name := "lib" } : Artifact)
    let core := ({ group := "org.a", name := "core" } : Artifact)
    (run [.insert ⟨lib.at "1.0", .bom⟩, .insert ⟨core.at "2.0", .bom⟩,
        .insert ⟨core.at "2.0", .rest⟩, .without (.ofList [lib]),
        .insert ⟨lib.at "1.0", .rest⟩]).entries =
      [⟨core.at "2.0", .bom⟩, ⟨lib.at "1.0", .rest⟩] := by
  decide +kernel

end BuildAlign.OverrideMap
