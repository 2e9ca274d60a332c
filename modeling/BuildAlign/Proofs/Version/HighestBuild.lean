import BuildAlign.Version.Base

/-!
The highest build number of a base. It bounds the number of every counted version, and it is the
number of one of them unless it is zero.
-/

namespace BuildAlign.Version

/-- The build number of a text, if it has one, leaves room for the next number and one more. -/
def HasRoom (text : String) : Prop :=
  ∀ n, (parse text).buildNumber = some n → n + 1 < Text.maxWord

theorem countedBuild?_eq_some_iff {base : Base} {text : String} {n : Nat} :
    countedBuild? base text = some n ↔
      (parse text).base = base ∧ (parse text).buildNumber = some n ∧ n < Text.maxWord := by
  rw [countedBuild?]
  split
  · rename_i hbase
    rw [Option.filter_eq_some_iff, decide_eq_true_iff]
    exact ⟨fun h => ⟨hbase, h⟩, fun h => h.2⟩
  · rename_i hbase
    exact ⟨nofun, fun h => absurd h.1 hbase⟩

/-- No published version of the base has a higher number. -/
theorem le_highestBuild {v : Version} {published : List String} {text : String} {n : Nat}
    (htext : text ∈ published) (hn : countedBuild? v.base text = some n) :
    n ≤ v.highestBuild published := by
  have hcounted : n ∈ published.filterMap (countedBuild? v.base) :=
    List.mem_filterMap.mpr ⟨text, htext, hn⟩
  rw [highestBuild, List.foldl_max]
  exact Nat.le_trans (List.le_max?_getD_of_mem hcounted) (Nat.le_max_right 0 _)

/-- The highest number is that of a published version, or zero. -/
theorem highestBuild_attained (v : Version) (published : List String) :
    v.highestBuild published = 0 ∨
      ∃ text ∈ published, countedBuild? v.base text = some (v.highestBuild published) := by
  rw [highestBuild, List.foldl_max, Nat.zero_max]
  cases hmax : (published.filterMap (countedBuild? v.base)).max? with
  | none => exact .inl rfl
  | some n => exact .inr (List.mem_filterMap.mp (List.max?_mem hmax))

theorem highestBuild_congr {v w : Version} (hbase : v.base = w.base) (published : List String) :
    v.highestBuild published = w.highestBuild published := by
  rw [highestBuild, hbase, highestBuild]

/-- One more text counts if it has the base and a number. -/
theorem highestBuild_concat (v : Version) (published : List String) (text : String) :
    v.highestBuild (published ++ [text]) =
      max (v.highestBuild published) ((countedBuild? v.base text).getD 0) := by
  rw [highestBuild, highestBuild, List.filterMap_append, List.foldl_append]
  cases hcounted : countedBuild? v.base text with
  | none => simp [hcounted]
  | some n => simp [hcounted]

/-- More published versions can only raise it. -/
theorem highestBuild_mono {v : Version} {published more : List String} (hsub : published ⊆ more) :
    v.highestBuild published ≤ v.highestBuild more := by
  rcases v.highestBuild_attained published with hzero | ⟨text, htext, hn⟩
  · rw [hzero]
    exact Nat.zero_le _
  · exact le_highestBuild (hsub htext) hn

theorem highestBuild_lt_maxWord (v : Version) (published : List String) :
    v.highestBuild published < Text.maxWord := by
  rcases v.highestBuild_attained published with hzero | ⟨text, _, hcounted⟩
  · rw [hzero]
    decide
  · exact (countedBuild?_eq_some_iff.mp hcounted).2.2

/-- As long as the counted versions have room, the next number and one more fit. -/
theorem highestBuild_lt {v : Version} {published : List String}
    (hroom : ∀ text ∈ published, HasRoom text) : v.highestBuild published + 1 < Text.maxWord := by
  rcases v.highestBuild_attained published with hzero | ⟨text, htext, hn⟩
  · rw [hzero]
    decide
  · exact hroom text htext _ (countedBuild?_eq_some_iff.mp hn).2.1

/-- A text that is not counted does not change the highest number. -/
theorem highestBuild_cons_of_not_counted {v : Version} {text : String} {published : List String}
    (htext : countedBuild? v.base text = none) :
    v.highestBuild (text :: published) = v.highestBuild published := by
  rw [highestBuild, List.filterMap_cons_none htext, highestBuild]

end BuildAlign.Version
