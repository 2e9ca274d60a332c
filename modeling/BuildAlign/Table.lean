/-!
Tables with ordered keys. A table lists its entries by strictly increasing key, so two tables with
the same entries are equal, and reading a table in order is reading it by key.
-/

namespace BuildAlign

/-- A type whose comparison is a linear order that agrees with equality. -/
class Key (κ : Type) extends Ord κ where
  trans : Std.TransOrd κ
  lawful : Std.LawfulEqOrd κ

instance Key.transOrd {κ : Type} [Key κ] : Std.TransOrd κ := Key.trans

instance Key.lawfulEqOrd {κ : Type} [Key κ] : Std.LawfulEqOrd κ := Key.lawful

instance : Key String where
  trans := inferInstance
  lawful := inferInstance

instance : Key Nat where
  trans := inferInstance
  lawful := inferInstance

/-- Entries in strictly increasing order of their keys. -/
structure Table (κ α : Type) [Key κ] where
  entries : List (κ × α)
  sorted : entries.Pairwise fun a b => compare a.1 b.1 = .lt

namespace Table

variable {κ α β : Type} [Key κ]

instance [DecidableEq κ] [DecidableEq α] : DecidableEq (Table κ α) := fun s t =>
  decidable_of_iff (s.entries = t.entries) <| by cases s; cases t; simp

instance [Repr κ] [Repr α] : Repr (Table κ α) := ⟨fun t n => reprPrec t.entries n⟩

/-- Puts an entry in its place among ordered entries, over an entry of the same key. -/
def place (k : κ) (a : α) : List (κ × α) → List (κ × α)
  | [] => [(k, a)]
  | e :: rest =>
    match compare k e.1 with
    | .lt => (k, a) :: e :: rest
    | .eq => (k, a) :: rest
    | .gt => e :: place k a rest

theorem mem_place {k : κ} {a : α} {x : κ × α} {l : List (κ × α)} (h : x ∈ place k a l) :
    x = (k, a) ∨ x ∈ l := by
  fun_induction place k a l <;> grind

/-- Entering a key keeps the order. This makes insertion a function on tables. -/
theorem sorted_place (k : κ) (a : α) {l : List (κ × α)}
    (h : l.Pairwise fun a b => compare a.1 b.1 = .lt) :
    (place k a l).Pairwise fun a b => compare a.1 b.1 = .lt := by
  fun_induction place k a l with
  | case1 => simp
  | case2 e rest hlt =>
    refine List.pairwise_cons.2 ⟨fun x hx => ?_, h⟩
    rcases List.mem_cons.1 hx with rfl | hx
    · exact hlt
    · exact Std.TransCmp.lt_trans hlt ((List.pairwise_cons.1 h).1 x hx)
  | case3 e rest heq =>
    obtain ⟨he, hr⟩ := List.pairwise_cons.1 h
    refine List.pairwise_cons.2 ⟨fun x hx => ?_, hr⟩
    have : k = e.1 := Std.LawfulEqCmp.eq_of_compare heq
    simpa [this] using he x hx
  | case4 e rest hgt ih =>
    obtain ⟨he, hr⟩ := List.pairwise_cons.1 h
    refine List.pairwise_cons.2 ⟨fun x hx => ?_, ih hr⟩
    rcases mem_place hx with rfl | hx
    · exact Std.OrientedCmp.lt_of_gt hgt
    · exact he x hx

def empty : Table κ α := ⟨[], .nil⟩

instance : Inhabited (Table κ α) := ⟨empty⟩

instance : EmptyCollection (Table κ α) := ⟨empty⟩

def insert (t : Table κ α) (k : κ) (a : α) : Table κ α :=
  ⟨place k a t.entries, sorted_place k a t.sorted⟩

def get? (t : Table κ α) (k : κ) : Option α :=
  (t.entries.find? fun e => compare k e.1 == .eq).map Prod.snd

/-- The value of a key, or the given value where there is none. -/
def getD (t : Table κ α) (k : κ) (a : α) : α :=
  (t.get? k).getD a

def contains (t : Table κ α) (k : κ) : Bool :=
  (t.get? k).isSome

def keys (t : Table κ α) : List κ :=
  t.entries.map Prod.fst

def values (t : Table κ α) : List α :=
  t.entries.map Prod.snd

def size (t : Table κ α) : Nat :=
  t.entries.length

def isEmpty (t : Table κ α) : Bool :=
  t.entries.isEmpty

/-- A table from entries; of several entries for one key the last one stands. -/
def ofList (entries : List (κ × α)) : Table κ α :=
  entries.foldl (fun t e => t.insert e.1 e.2) empty

def mapValues (f : κ → α → β) (t : Table κ α) : Table κ β :=
  ⟨t.entries.map fun e => (e.1, f e.1 e.2), by
    simpa [List.pairwise_map] using t.sorted⟩

theorem find?_place [DecidableEq κ] (k k' : κ) (a : α) {l : List (κ × α)}
    (h : l.Pairwise fun a b => compare a.1 b.1 = .lt) :
    (place k a l).find? (fun e => compare k' e.1 == .eq)
      = if k' = k then some (k, a) else l.find? fun e => compare k' e.1 == .eq := by
  fun_induction place k a l with
  | case1 => by_cases hk : k' = k <;> simp [hk]
  | case2 e rest hlt => by_cases hk : k' = k <;> simp [List.find?_cons, hk]
  | case3 e rest heq =>
    have he : k = e.1 := Std.LawfulEqCmp.eq_of_compare heq
    by_cases hk : k' = k
    · simp [hk]
    · have : ¬ k' = e.1 := he ▸ hk
      simp [hk, this]
  | case4 e rest hgt ih =>
    by_cases hk : k' = k
    · subst hk
      have hne : ¬ k' = e.1 := fun he => by simp [he] at hgt
      simp [hne, ih (List.pairwise_cons.1 h).2]
    · simp [List.find?_cons, hk, ih (List.pairwise_cons.1 h).2]

/-- A table is a function of its keys, changed at one of them. -/
theorem get?_insert [DecidableEq κ] (t : Table κ α) (k k' : κ) (a : α) :
    (t.insert k a).get? k' = if k' = k then some a else t.get? k' := by
  simp only [get?, insert, find?_place k k' a t.sorted]
  split <;> rfl

end Table

/-- A finite set, listed in order. -/
abbrev KeySet (κ : Type) [Key κ] := Table κ Unit

namespace KeySet

variable {κ : Type} [Key κ]

def ofList (ks : List κ) : KeySet κ :=
  Table.ofList (ks.map fun k => (k, ()))

def add (s : KeySet κ) (k : κ) : KeySet κ :=
  Table.insert s k ()

end KeySet

end BuildAlign
