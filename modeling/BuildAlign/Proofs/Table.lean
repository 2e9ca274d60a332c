import BuildAlign.Table

/-!
Members of tables and key sets. A key is in a table exactly if a look-up finds a value, so what an
insertion does to the keys follows from what it does to look-ups.
-/

namespace BuildAlign

namespace Table

variable {κ α : Type} [Key κ]

theorem compare_eq_iff {k k' : κ} : (compare k k' == .eq) = true ↔ k = k' := by
  rw [beq_iff_eq, Std.LawfulEqCmp.compare_eq_iff_eq]

theorem mem_keys_iff {t : Table κ α} {k : κ} : k ∈ t.keys ↔ (t.get? k).isSome = true := by
  rw [keys, get?, Option.isSome_map, List.find?_isSome, List.mem_map]
  constructor
  · rintro ⟨e, he, rfl⟩
    exact ⟨e, he, compare_eq_iff.mpr rfl⟩
  · rintro ⟨e, he, hk⟩
    exact ⟨e, he, (compare_eq_iff.mp hk).symm⟩

/-- Entries have different keys. -/
theorem distinct (t : Table κ α) : t.entries.Pairwise fun e e' => e.1 ≠ e'.1 := by
  refine t.sorted.imp fun {e e'} hlt heq => ?_
  have hself : compare e.1 e'.1 = .eq := Std.LawfulEqCmp.compare_eq_iff_eq.mpr heq
  exact absurd (hlt.symm.trans hself) nofun

theorem mem_of_get? {t : Table κ α} {k : κ} {a : α} (h : t.get? k = some a) :
    (k, a) ∈ t.entries := by
  obtain ⟨e, he, rfl⟩ := Option.map_eq_some_iff.mp h
  have hkey := List.find?_some (p := fun e : κ × α => compare k e.1 == .eq) he
  rw [compare_eq_iff.mp hkey]
  exact List.mem_of_find?_eq_some he

theorem ne_of_get?_eq_none {t : Table κ α} {k : κ} (h : t.get? k = none) {e : κ × α}
    (he : e ∈ t.entries) : e.1 ≠ k := by
  rintro rfl
  have hfind := List.find?_eq_none.mp (Option.map_eq_none_iff.mp h) e he
  exact hfind (compare_eq_iff.mpr rfl)

theorem get?_of_mem {t : Table κ α} {e : κ × α} (he : e ∈ t.entries) : t.get? e.1 = some e.2 := by
  obtain ⟨front, later, hsplit⟩ := List.append_of_mem he
  have hfront : ∀ e' ∈ front, e'.1 ≠ e.1 := by
    have hdistinct := t.distinct
    rw [hsplit] at hdistinct
    exact fun e' he' => (List.pairwise_append.mp hdistinct).2.2 e' he' e (List.mem_cons_self ..)
  refine Option.map_eq_some_iff.mpr ⟨e, List.find?_eq_some_iff_append.mpr ?_, rfl⟩
  refine ⟨compare_eq_iff.mpr rfl, front, later, hsplit, fun e' he' => ?_⟩
  rw [Bool.not_eq_true', Bool.eq_false_iff, Ne, compare_eq_iff]
  exact (hfront e' he').symm

theorem mem_values_iff {t : Table κ α} {a : α} : a ∈ t.values ↔ ∃ k, t.get? k = some a := by
  rw [values, List.mem_map]
  constructor
  · rintro ⟨e, he, rfl⟩
    exact ⟨e.1, get?_of_mem he⟩
  · rintro ⟨k, hk⟩
    exact ⟨(k, a), mem_of_get? hk, rfl⟩

theorem mem_keys_insert [DecidableEq κ] {t : Table κ α} {k k' : κ} {a : α} :
    k' ∈ (t.insert k a).keys ↔ k' = k ∨ k' ∈ t.keys := by
  rw [mem_keys_iff, get?_insert, mem_keys_iff]
  split
  · rename_i heq
    simp [heq]
  · rename_i hne
    simp [hne]

theorem not_mem_keys_empty (k : κ) : k ∉ (∅ : Table κ α).keys :=
  List.not_mem_nil

/-- A table of at most one entry has no two keys. -/
theorem eq_of_size_le_one {t : Table κ α} (hsize : t.size ≤ 1) {k k' : κ} (hk : k ∈ t.keys)
    (hk' : k' ∈ t.keys) : k = k' := by
  have hlength : t.keys.length ≤ 1 := by rwa [keys, List.length_map]
  cases hkeys : t.keys with
  | nil => simp [hkeys] at hk
  | cons k₀ later =>
    obtain rfl : later = [] := by simpa [hkeys] using hlength
    rw [hkeys, List.mem_singleton] at hk hk'
    exact hk.trans hk'.symm

/-- A table of more than one entry has a key beside any given one. -/
theorem exists_ne_of_one_lt_size {t : Table κ α} (hsize : 1 < t.size) (k : κ) :
    ∃ k' ∈ t.keys, k' ≠ k := by
  have hnodup : t.keys.Nodup := List.pairwise_map.mpr t.distinct
  have hlength : 1 < t.keys.length := by rwa [keys, List.length_map]
  match t.keys, hnodup, hlength with
  | first :: second :: later, hnodup, _ =>
    by_cases hk : first = k
    · have hne := (List.pairwise_cons.mp hnodup).1 second (List.mem_cons_self ..)
      exact ⟨second, by simp, fun heq => hne (hk.trans heq.symm)⟩
    · exact ⟨first, by simp, hk⟩

theorem one_lt_size {t : Table κ α} {k k' : κ} (hk : k ∈ t.keys) (hk' : k' ∈ t.keys)
    (hne : k' ≠ k) : 1 < t.size :=
  Nat.not_le.mp fun hsize => hne (eq_of_size_le_one hsize hk' hk)

theorem one_lt_size_of_subset {t t' : Table κ α} (hsub : t.keys ⊆ t'.keys) (hsize : 1 < t.size) :
    1 < t'.size := by
  cases hkeys : t.keys with
  | nil =>
    rw [keys, List.map_eq_nil_iff] at hkeys
    simp [size, hkeys] at hsize
  | cons k later =>
    obtain ⟨k', hk', hne⟩ := exists_ne_of_one_lt_size hsize k
    exact one_lt_size (hsub (hkeys ▸ List.mem_cons_self ..)) (hsub hk') hne

/-- An entry behind all others is placed at the end. -/
theorem place_of_lt {k : κ} {a : α} {l : List (κ × α)} (h : ∀ e ∈ l, compare e.1 k = .lt) :
    place k a l = l ++ [(k, a)] := by
  induction l with
  | nil => rfl
  | cons e rest ih =>
    obtain ⟨he, hrest⟩ := List.forall_mem_cons.mp h
    rw [place, Std.OrientedCmp.gt_of_lt he, ih hrest, List.cons_append]

theorem entries_foldl_insert {later : List (κ × α)} {t : Table κ α}
    (h : (t.entries ++ later).Pairwise fun e e' => compare e.1 e'.1 = .lt) :
    (later.foldl (fun t e => t.insert e.1 e.2) t).entries = t.entries ++ later := by
  induction later generalizing t with
  | nil => simp
  | cons e later ih =>
    have hlt : ∀ e' ∈ t.entries, compare e'.1 e.1 = .lt := fun e' he' =>
      (List.pairwise_append.mp h).2.2 e' he' e (List.mem_cons_self ..)
    have hinserted : (t.insert e.1 e.2).entries = t.entries ++ [e] := place_of_lt hlt
    rw [List.foldl_cons, ih, hinserted, List.append_assoc, List.singleton_append]
    rwa [hinserted, List.append_assoc, List.singleton_append]

/-- A table is made of its entries again. -/
theorem ofList_entries (t : Table κ α) : ofList t.entries = t := by
  have hentries : (ofList t.entries).entries = t.entries := entries_foldl_insert t.sorted
  cases h : ofList t.entries
  cases t
  rw [h] at hentries
  cases hentries
  rfl

/-- A table is its look-ups. -/
theorem eq_of_get? {t t' : Table κ α} (h : ∀ k, t.get? k = t'.get? k) : t = t' := by
  have hmem : ∀ e, e ∈ t.entries ↔ e ∈ t'.entries := fun e =>
    ⟨fun he => mem_of_get? ((h e.1).symm.trans (get?_of_mem he)),
      fun he => mem_of_get? ((h e.1).trans (get?_of_mem he))⟩
  have hnodup : ∀ t : Table κ α, t.entries.Nodup := fun t =>
    t.distinct.imp fun hne heq => hne (congrArg Prod.fst heq)
  have hperm := (List.perm_ext_iff_of_nodup (hnodup t) (hnodup t')).mpr hmem
  have hentries := hperm.eq_of_pairwise
    (fun e e' _ _ hlt hgt => absurd (hlt.symm.trans (Std.OrientedCmp.gt_of_lt hgt)) nofun)
    t.sorted t'.sorted
  cases t
  cases t'
  cases hentries
  rfl

/-- Setting a value that is there already changes nothing. -/
theorem insert_of_get? [DecidableEq κ] {t : Table κ α} {k : κ} {a : α} (h : t.get? k = some a) :
    t.insert k a = t := by
  apply eq_of_get?
  intro k'
  rw [get?_insert]
  split
  · rename_i heq
    rw [heq, h]
  · rfl

end Table

namespace KeySet

variable {κ : Type} [Key κ] [DecidableEq κ]

theorem mem_keys_add {s : KeySet κ} {k k' : κ} : k' ∈ (s.add k).keys ↔ k' = k ∨ k' ∈ s.keys :=
  Table.mem_keys_insert

theorem mem_keys_foldl {ks : List κ} {s : KeySet κ} {k : κ} :
    k ∈ ((ks.map fun k => (k, ())).foldl (fun t e => t.insert e.1 e.2) s).keys ↔
      k ∈ ks ∨ k ∈ s.keys := by
  induction ks generalizing s with
  | nil => simp
  | cons k' ks ih =>
    rw [List.map_cons, List.foldl_cons, ih, Table.mem_keys_insert, List.mem_cons]
    grind

theorem mem_keys_foldl_add {ks : List κ} {s : KeySet κ} {k : κ} :
    k ∈ (ks.foldl add s).keys ↔ k ∈ ks ∨ k ∈ s.keys := by
  rw [← mem_keys_foldl, List.foldl_map]
  rfl

theorem mem_keys_ofList {ks : List κ} {k : κ} : k ∈ (ofList ks).keys ↔ k ∈ ks := by
  rw [ofList, Table.ofList, mem_keys_foldl]
  simp only [or_iff_left_iff_imp]
  exact fun h => absurd h (Table.not_mem_keys_empty k)

theorem contains_ofList {ks : List κ} {k : κ} : (ofList ks).contains k = true ↔ k ∈ ks := by
  rw [Table.contains, ← Table.mem_keys_iff, mem_keys_ofList]

omit [DecidableEq κ] in
/-- A set is its members. -/
theorem eq_of_mem_keys {s s' : KeySet κ} (h : ∀ k, k ∈ s.keys ↔ k ∈ s'.keys) : s = s' := by
  refine Table.eq_of_get? fun k => ?_
  have hk := h k
  rw [Table.mem_keys_iff, Table.mem_keys_iff] at hk
  cases hs : Table.get? s k <;> cases hs' : Table.get? s' k <;> simp_all

end KeySet

end BuildAlign
