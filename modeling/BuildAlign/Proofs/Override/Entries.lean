import BuildAlign.Alignment.Dependencies
import BuildAlign.Proofs.Table

/-!
Where override entries come from. Merging and filtering add no entry, and a candidate version is the
trimmed version of an entry. For one artifact all entries of a merged map are of one source, and the
map that a pass uses in a module has either all of them or none.
-/

namespace BuildAlign

namespace OverrideMap

variable {m other : OverrideMap} {e : OverrideEntry}

theorem mem_entries_insert {e' : OverrideEntry} (h : e ∈ (m.insert e').entries) :
    e ∈ m.entries ∨ e = e' := by
  rw [insert] at h
  split at h
  · exact .inl h
  · simpa using h

theorem mem_entries_extend (h : e ∈ (m.extend other).entries) :
    e ∈ m.entries ∨ e ∈ other.entries := by
  have hfold : ∀ (entries : List OverrideEntry) (m : OverrideMap),
      e ∈ (entries.foldl insert m).entries → e ∈ m.entries ∨ e ∈ entries := by
    intro entries
    induction entries with
    | nil => exact fun m h => .inl h
    | cons e' entries ih =>
      intro m h
      rcases ih (m.insert e') h with h | h
      · rcases mem_entries_insert h with h | rfl
        · exact .inl h
        · exact .inr (List.mem_cons_self ..)
      · exact .inr (List.mem_cons_of_mem _ h)
  exact hfold other.entries m h

theorem mem_targets_insert {e : OverrideEntry} {target : Coordinate} :
    target ∈ (m.insert e).entries.map OverrideEntry.target ↔
      target = e.target ∨ target ∈ m.entries.map OverrideEntry.target := by
  rw [insert]
  split
  · rename_i hold
    exact ⟨.inr, fun h => h.elim (fun heq => heq ▸ hold) id⟩
  · rw [List.map_append, List.mem_append, List.map_singleton, List.mem_singleton, or_comm]

/-- A map made of coordinates has an entry for every one of them, and no others. -/
theorem mem_targets_ofCoordinates {source : OverrideSource} {targets : List Coordinate}
    {target : Coordinate} :
    target ∈ (ofCoordinates source targets).entries.map OverrideEntry.target ↔
      target ∈ targets := by
  have hfold : ∀ (targets : List Coordinate) (m : OverrideMap),
      target ∈ (targets.foldl (fun m target => m.insert { target, source }) m).entries.map
          OverrideEntry.target ↔
        target ∈ targets ∨ target ∈ m.entries.map OverrideEntry.target := by
    intro targets
    induction targets with
    | nil => simp
    | cons first later ih =>
      intro m
      rw [List.foldl_cons, ih, mem_targets_insert, List.mem_cons, or_assoc, or_left_comm]
  rw [ofCoordinates, hfold]
  exact or_iff_left List.not_mem_nil

theorem mem_entries_retain {keep : OverrideEntry → Bool} (h : e ∈ (m.retain keep).entries) :
    e ∈ m.entries :=
  (List.mem_filter.mp h).1

/-- A test on artifacts keeps all entries for one or none. -/
theorem entriesOf_retain (m : OverrideMap) (keep : Artifact → Bool) (a : Artifact) :
    (m.retain fun e => keep e.artifact).entriesOf a = if keep a then m.entriesOf a else [] := by
  rw [entriesOf, retain, List.filter_filter]
  split
  · rename_i hkeep
    refine List.filter_congr fun e _ => ?_
    cases hartifact : e.artifact == a with
    | false => rfl
    | true => rw [beq_iff_eq.mp hartifact, hkeep, Bool.true_and]
  · rename_i hdrop
    refine List.filter_eq_nil_iff.mpr fun e _ hboth => ?_
    obtain ⟨hartifact, hkeep⟩ := Bool.and_eq_true_iff.mp hboth
    exact hdrop (beq_iff_eq.mp hartifact ▸ hkeep)

end OverrideMap

theorem OverrideSources.mem_entries_merge {s : OverrideSources} {precedence : Precedence}
    {e : OverrideEntry} (h : e ∈ (s.merge precedence).entries) :
    e ∈ s.bom.entries ∨ e ∈ s.rest.entries := by
  cases precedence with
  | bom => exact .inl h
  | rest => exact .inr h
  | restThenBom => exact (OverrideMap.mem_entries_extend h).imp_left OverrideMap.mem_entries_retain
  | bomThenRest =>
    exact (OverrideMap.mem_entries_extend h).symm.imp_right OverrideMap.mem_entries_retain

/-! ## The winning source -/

namespace OverrideSources

variable {s : OverrideSources} {precedence : Precedence} {e : OverrideEntry}

/-- The source that alone counts for an artifact. -/
def winner (s : OverrideSources) (a : Artifact) : Precedence → OverrideMap
  | .bom => s.bom
  | .rest => s.rest
  | .restThenBom => if a ∈ s.rest.entries.map OverrideEntry.artifact then s.rest else s.bom
  | .bomThenRest => if a ∈ s.bom.entries.map OverrideEntry.artifact then s.bom else s.rest

theorem mem_layer {lower higher : OverrideMap} (h : e ∈ (lower.layer higher).entries) :
    e ∈ (if e.artifact ∈ higher.entries.map OverrideEntry.artifact then higher else lower).entries :=
    by
  rcases OverrideMap.mem_entries_extend h with hlower | hhigher
  · obtain ⟨hmem, hkeep⟩ := List.mem_filter.mp hlower
    rw [if_neg]
    · exact hmem
    · rw [← KeySet.contains_ofList]
      have hdropped : higher.artifacts.contains e.artifact = false := by simpa using hkeep
      exact Bool.eq_false_iff.mp hdropped
  · rw [if_pos (List.mem_map_of_mem hhigher)]
    exact hhigher

theorem mem_winner (h : e ∈ (s.merge precedence).entries) :
    e ∈ (s.winner e.artifact precedence).entries := by
  cases precedence with
  | bom | rest => exact h
  | restThenBom | bomThenRest => exact mem_layer h

end OverrideSources

/-! ## The overrides in a module -/

/-- For an artifact that is excluded, or that is a module of the reactor, there are no overrides;
for any other one there are those of the merged sources. -/
theorem DependencyAlignment.entriesOf_inModule (a : DependencyAlignment) (r : Reactor)
    (rules : ExplicitRules) (artifact : Artifact) :
    (rules.applyExclusions (a.overridesFor r)).entriesOf artifact =
      if rules.excludes artifact = true ∨ artifact ∈ r.ids.map r.artifact then []
      else (a.sources.merge a.config.precedence).entriesOf artifact := by
  rw [ExplicitRules.applyExclusions, overridesFor, OverrideMap.without,
    OverrideMap.entriesOf_retain _ fun artifact => !rules.excludes artifact,
    OverrideMap.entriesOf_retain _ fun artifact => !r.artifacts.contains artifact]
  have hcontains : r.artifacts.contains artifact = true ↔ artifact ∈ r.ids.map r.artifact :=
    KeySet.contains_ofList
  simp only [← hcontains]
  cases rules.excludes artifact <;> cases Table.contains r.artifacts artifact <;> simp

theorem mem_candidateVersions {entries : List OverrideEntry} {version : String}
    (h : version ∈ candidateVersions entries) :
    ∃ e ∈ entries, Text.nonBlank? e.version = some version :=
  List.mem_filterMap.mp h

end BuildAlign
