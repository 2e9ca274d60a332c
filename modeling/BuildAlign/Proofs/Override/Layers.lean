import BuildAlign.Proofs.Override.Entries

/-!
Merging, artifact by artifact. The entries of a merged map for one artifact are those of one source,
in its order and with its tags: those of the higher source if it has any, and otherwise those of the
lower one. Dropping artifacts leaves the entries of all others as they are.
-/

namespace BuildAlign

namespace OverrideMap

variable {m other : OverrideMap}

theorem entries_insert {e : OverrideEntry} (h : e.target ∉ m.entries.map OverrideEntry.target) :
    (m.insert e).entries = m.entries ++ [e] := by
  rw [insert, dif_neg h]

/-- Entries with new coordinates are all appended. -/
theorem entries_extend
    (h : ∀ e ∈ other.entries, e.target ∉ m.entries.map OverrideEntry.target) :
    (m.extend other).entries = m.entries ++ other.entries := by
  have hfold : ∀ (entries : List OverrideEntry) (m : OverrideMap),
      (entries.map OverrideEntry.target).Nodup →
      (∀ e ∈ entries, e.target ∉ m.entries.map OverrideEntry.target) →
      (entries.foldl insert m).entries = m.entries ++ entries := by
    intro entries
    induction entries with
    | nil => exact fun m _ _ => (List.append_nil _).symm
    | cons e later ih =>
      intro m hdistinct hnew
      obtain ⟨hnot, hdistinct⟩ := List.nodup_cons.mp hdistinct
      obtain ⟨he, hlater⟩ := List.forall_mem_cons.mp hnew
      have hinserted := entries_insert he
      rw [List.foldl_cons, ih (m.insert e) hdistinct, hinserted, List.append_assoc]
      · rfl
      · intro e' he'
        rw [hinserted, List.map_append, List.mem_append, not_or]
        refine ⟨hlater e' he', fun hsame => hnot ?_⟩
        rw [← List.mem_singleton.mp hsame]
        exact List.mem_map_of_mem he'
  exact hfold other.entries m other.distinct h

theorem entriesOf_eq_nil_iff (m : OverrideMap) (a : Artifact) :
    m.entriesOf a = [] ↔ a ∉ m.entries.map OverrideEntry.artifact := by
  simp [entriesOf, List.filter_eq_nil_iff]

theorem entriesOf_without (m : OverrideMap) (artifacts : KeySet Artifact) (a : Artifact) :
    (m.without artifacts).entriesOf a = if artifacts.contains a then [] else m.entriesOf a := by
  rw [without, m.entriesOf_retain fun a => !artifacts.contains a]
  cases Table.contains artifacts a <;> rfl

theorem contains_artifacts (m : OverrideMap) (a : Artifact) :
    m.artifacts.contains a = true ↔ m.entriesOf a ≠ [] := by
  rw [artifacts, KeySet.contains_ofList, Ne, entriesOf_eq_nil_iff, Decidable.not_not]

/-- A higher layer hides the lower one artifact by artifact, not entry by entry. -/
theorem entriesOf_layer (lower higher : OverrideMap) (a : Artifact) :
    (lower.layer higher).entriesOf a =
      if higher.entriesOf a = [] then lower.entriesOf a else higher.entriesOf a := by
  have hnew : ∀ e ∈ higher.entries,
      e.target ∉ (lower.without higher.artifacts).entries.map OverrideEntry.target := by
    intro e he hmem
    obtain ⟨e', he', htarget⟩ := List.mem_map.mp hmem
    obtain ⟨_, hkept⟩ := List.mem_filter.mp he'
    -- entries of one coordinate are for one artifact, and none for this one is left
    have hartifact : e'.artifact = e.artifact := congrArg Coordinate.artifact htarget
    have hcontains : higher.artifacts.contains e.artifact = true :=
      KeySet.contains_ofList.mpr (List.mem_map_of_mem he)
    rw [hartifact, hcontains] at hkept
    cases hkept
  have hlayers : (lower.layer higher).entriesOf a =
      (lower.without higher.artifacts).entriesOf a ++ higher.entriesOf a := by
    rw [layer, entriesOf, entries_extend hnew, List.filter_append]
    rfl
  rw [hlayers, entriesOf_without]
  by_cases hnone : higher.entriesOf a = []
  · rw [if_neg fun h => (higher.contains_artifacts a).mp h hnone, if_pos hnone, hnone,
      List.append_nil]
  · rw [if_pos ((higher.contains_artifacts a).mpr hnone), if_neg hnone, List.nil_append]

/-- The entries that are dropped are those for the artifacts. -/
theorem size_without (m : OverrideMap) (artifacts : KeySet Artifact) :
    (m.without artifacts).size + m.entries.countP (artifacts.contains ·.artifact) = m.size := by
  rw [size, without, retain, ← List.countP_eq_length_filter, Nat.add_comm, size,
    List.length_eq_countP_add_countP (artifacts.contains ·.artifact)]
  congr 2
  funext e
  cases artifacts.contains e.artifact <;> rfl

end OverrideMap

/-- What a merge gives for an artifact, and what is left of a map without some artifacts. -/
theorem OverrideSources.merged_by_artifact (s : OverrideSources) :
    s.merge .bom = s.bom ∧ s.merge .rest = s.rest ∧
    (∀ a, (s.merge .restThenBom).entriesOf a =
      if s.rest.entriesOf a = [] then s.bom.entriesOf a else s.rest.entriesOf a) ∧
    (∀ a, (s.merge .bomThenRest).entriesOf a =
      if s.bom.entriesOf a = [] then s.rest.entriesOf a else s.bom.entriesOf a) ∧
    ∀ (precedence : Precedence) (artifacts : KeySet Artifact),
      let merged := s.merge precedence
      (∀ a, (merged.without artifacts).entriesOf a =
        if artifacts.contains a then [] else merged.entriesOf a) ∧
      (merged.without artifacts).entries.Sublist merged.entries ∧
      (merged.without artifacts).size + merged.dropped artifacts = merged.size ∧
      merged.dropped artifacts = merged.entries.countP (artifacts.contains ·.artifact) := by
  refine ⟨rfl, rfl, s.bom.entriesOf_layer s.rest, s.rest.entriesOf_layer s.bom, ?_⟩
  intro precedence artifacts merged
  have hsize := merged.size_without artifacts
  refine ⟨merged.entriesOf_without artifacts, List.filter_sublist, ?_, ?_⟩
  · rw [OverrideMap.dropped]
    omega
  · rw [OverrideMap.dropped]
    omega

end BuildAlign
