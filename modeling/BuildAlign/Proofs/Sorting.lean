import Mathlib.Data.List.Sort

/-!
Lists sorted by a key. A list that is sorted by a key is determined by the elements of each key, in
the order in which they stand. Merge sort keeps this order, so whatever sorts by the key and keeps
it too gives the same list.
-/

namespace BuildAlign

variable {α : Type} {key : α → Nat} {xs ys : List α}

theorem mem_iff_of_filter_key_eq (h : ∀ n, xs.filter (key · = n) = ys.filter (key · = n)) (a : α) :
    a ∈ xs ↔ a ∈ ys := by
  have ha : a ∈ xs.filter (key · = key a) ↔ a ∈ ys.filter (key · = key a) := by rw [h]
  simpa using ha

/-- The first element of a sorted list has the least key of all elements. -/
theorem key_le_of_mem_cons {a b : α} (h : (a :: xs).Pairwise fun a b => key a ≤ key b)
    (hb : b ∈ a :: xs) : key a ≤ key b := by
  rcases List.mem_cons.mp hb with rfl | hb
  · exact le_rfl
  · exact (List.pairwise_cons.mp h).1 b hb

/-- Two lists that are sorted by a key are the same if the elements of each key stand in the same
order in both. -/
theorem eq_of_filter_key_eq (hxs : xs.Pairwise fun a b => key a ≤ key b)
    (hys : ys.Pairwise fun a b => key a ≤ key b)
    (h : ∀ n, xs.filter (key · = n) = ys.filter (key · = n)) : xs = ys := by
  induction xs generalizing ys with
  | nil =>
    cases ys with
    | nil => rfl
    | cons b ys => simpa using (mem_iff_of_filter_key_eq h b).mpr (List.mem_cons_self ..)
  | cons a xs ih =>
    have ha := (mem_iff_of_filter_key_eq h a).mp (List.mem_cons_self ..)
    cases ys with
    | nil => simp at ha
    | cons b ys =>
      have hb := (mem_iff_of_filter_key_eq h b).mpr (List.mem_cons_self ..)
      have hkey : key b = key a :=
        le_antisymm (key_le_of_mem_cons hys ha) (key_le_of_mem_cons hxs hb)
      have hfirst := h (key a)
      rw [List.filter_cons_of_pos (by simp), List.filter_cons_of_pos (by simp [hkey])] at hfirst
      obtain ⟨rfl, hsame⟩ := List.cons.inj hfirst
      congr 1
      apply ih (List.pairwise_cons.mp hxs).2 (List.pairwise_cons.mp hys).2
      intro n
      by_cases hn : key a = n
      · exact hn ▸ hsame
      · have hother := h n
        rwa [List.filter_cons_of_neg (by simpa using hn),
          List.filter_cons_of_neg (by simpa using hn)] at hother

section

variable (key) (xs)

theorem trans_key (a b c : α) (hab : decide (key a ≤ key b) = true)
    (hbc : decide (key b ≤ key c) = true) : decide (key a ≤ key c) = true := by
  rw [decide_eq_true_iff] at *
  exact hab.trans hbc

theorem total_key (a b : α) : (decide (key a ≤ key b) || decide (key b ≤ key a)) = true := by
  simpa using le_total (key a) (key b)

theorem pairwise_mergeSort_key :
    (xs.mergeSort fun a b => decide (key a ≤ key b)).Pairwise fun a b => key a ≤ key b :=
  (List.pairwise_mergeSort (trans_key key) (total_key key) xs).imp of_decide_eq_true

/-- Sorting by a key keeps the order of the elements of one key. -/
theorem filter_mergeSort_key (n : Nat) :
    (xs.mergeSort fun a b => decide (key a ≤ key b)).filter (key · = n) =
      xs.filter (key · = n) := by
  have hone : (xs.filter (key · = n)).Pairwise fun a b => decide (key a ≤ key b) = true := by
    apply List.pairwise_of_forall_mem_list
    intro a ha b hb
    have hkey : ∀ c ∈ xs.filter (key · = n), key c = n := fun c hc => by
      simpa using (List.mem_filter.mp hc).2
    simp [hkey a ha, hkey b hb]
  have hsub := (List.sublist_mergeSort (trans_key key) (total_key key) hone
    List.filter_sublist).filter (key · = n)
  simp only [List.filter_filter, Bool.and_self] at hsub
  have hlength := ((List.mergeSort_perm xs fun a b => decide (key a ≤ key b)).filter
    (key · = n)).length_eq
  exact (hsub.eq_of_length hlength.symm).symm

end

end BuildAlign
