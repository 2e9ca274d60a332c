import BuildAlign.Json.Record
import Mathlib.Data.List.Nodup

/-!
Reading back written records. A record is written as the members of those of its fields that have a
value. No name is repeated among them if the fields have different names, and every field is found
with its value, or not at all if it has none.
-/

namespace BuildAlign.Json

/-- Where no name is repeated, a look-up finds every member. -/
theorem get?_eq_some_iff {r : Record} (hnames : (r.map Prod.fst).Nodup) {name : String} {x : Json} :
    r.get? name = some x ↔ (name, x) ∈ r := by
  rw [Record.get?, Option.map_eq_some_iff]
  constructor
  · rintro ⟨e, hfind, rfl⟩
    have hname := List.find?_some hfind
    rw [← beq_iff_eq.mp hname]
    exact List.mem_of_find?_eq_some hfind
  · intro hmem
    have hsome : (r.find? fun e => e.1 == name).isSome = true :=
      List.find?_isSome.mpr ⟨_, hmem, beq_self_eq_true name⟩
    obtain ⟨e, hfind⟩ := Option.isSome_iff_exists.mp hsome
    have hname := List.find?_some hfind
    obtain rfl := List.inj_on_of_nodup_map hnames (List.mem_of_find?_eq_some hfind) hmem
      (beq_iff_eq.mp hname)
    exact ⟨_, hfind, rfl⟩

def present (fields : List (String × Option Json)) : Record :=
  fields.flatMap fun f => optional f.1 f.2

variable {fields : List (String × Option Json)} {name : String}

theorem mem_present {x : Json} : (name, x) ∈ present fields ↔ (name, some x) ∈ fields := by
  simp [present, optional]

theorem present_append (fields fields' : List (String × Option Json)) :
    present (fields ++ fields') = present fields ++ present fields' :=
  List.flatMap_append

theorem names_present_sublist (fields : List (String × Option Json)) :
    ((present fields).map Prod.fst).Sublist (fields.map Prod.fst) := by
  induction fields with
  | nil => exact List.Sublist.refl _
  | cons f later ih =>
    obtain ⟨name, _ | x⟩ := f
    · exact ih.cons name
    · exact ih.cons_cons name

section

variable (hnames : (fields.map Prod.fst).Nodup)

include hnames

theorem get?_present {value : Option Json} (hmem : (name, value) ∈ fields) :
    (present fields).get? name = value := by
  refine Option.ext fun x => ?_
  rw [get?_eq_some_iff (hnames.sublist (names_present_sublist fields)), mem_present]
  constructor
  · intro hx
    cases List.inj_on_of_nodup_map hnames hmem hx rfl
    rfl
  · rintro rfl
    exact hmem

theorem repeated_present (name : String) : repeated (present fields) name = false := by
  have hdistinct := hnames.sublist (names_present_sublist fields)
  have hone := List.nodup_iff_count_le_one.mp hdistinct name
  rw [List.count, List.countP_map, List.countP_eq_length_filter] at hone
  exact decide_eq_false (Nat.not_lt.mpr hone)

/-- The members of a written record are its fields again, whichever names are known. -/
theorem fields?_present (names : List String) :
    fields? names (.object (present fields)) = some (present fields) := by
  have hnone : names.any (repeated (present fields)) = false :=
    List.any_eq_false.mpr fun name _ => by simp [repeated_present hnames name]
  simp [fields?, hnone]

theorem record?_present (names : List String) :
    record? names (.object (present fields)) = some (present fields) :=
  fields?_present hnames names

/-! ## Single fields -/

variable {α : Type} {read : Json → Option α}

theorem required_present {x : Json} (hmem : (name, some x) ∈ fields) :
    (present fields).required name read = read x := by
  rw [Record.required, get?_present hnames hmem]
  rfl

/-- Of a written record, a field that was left out is read as its default. -/
theorem withDefault_present {value : Option Json} (hmem : (name, value) ∈ fields) (default : α) :
    (present fields).withDefault name read default = value.elim (some default) read := by
  rw [Record.withDefault, get?_present hnames hmem]
  cases value <;> rfl

theorem nullable_present {value : Option String} (hmem : (name, value.map text) ∈ fields) :
    (present fields).nullable name = some value := by
  rw [Record.nullable, withDefault_present hnames hmem]
  cases value <;> rfl

end

/-! ## Lists -/

/-- A list of written items is read back item by item. -/
theorem listOf?_map {α : Type} {read : Json → Option α} {write : α → Json} {items : List α}
    (h : ∀ a ∈ items, read (write a) = some a) :
    listOf? read (list (items.map write)) = some items := by
  rw [listOf?]
  induction items with
  | nil => rfl
  | cons a later ih =>
    obtain ⟨ha, hlater⟩ := List.forall_mem_cons.mp h
    rw [List.map_cons, List.mapM_cons, ha, ih hlater]
    rfl

end BuildAlign.Json
