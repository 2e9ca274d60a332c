/-!
Cutting texts: at either end, at the first or last occurrence of a mark, and along the trailing run
of a class of characters. A cut loses nothing: the parts, with the mark put back, are the text.
-/

namespace BuildAlign.Text

/-- What follows `mark` in a text that starts with it. -/
def after? : List Char → List Char → Option (List Char)
  | [], s => some s
  | _ :: _, [] => none
  | m :: mark, c :: s => if m = c then after? mark s else none

/-- What precedes `mark` in a text that ends with it. -/
def before? (mark s : List Char) : Option (List Char) :=
  (after? mark.reverse s.reverse).map List.reverse

/-- Cuts at the first occurrence of `mark`: what stands before it and what follows it. -/
def cutFirst? (mark : List Char) : List Char → Option (List Char × List Char)
  | [] => if mark = [] then some ([], []) else none
  | c :: s =>
    match after? mark (c :: s) with
    | some rest => some ([], rest)
    | none => (cutFirst? mark s).map fun (front, rest) => (c :: front, rest)

def cutLast? (mark : Char) : List Char → Option (List Char × List Char)
  | [] => none
  | c :: s =>
    match cutLast? mark s with
    | some (front, rest) => some (c :: front, rest)
    | none => if c = mark then some ([], s) else none

/-- The longest run of characters of the class at the end of the text, preceded by the rest. -/
def spanEnd (p : Char → Bool) : List Char → List Char × List Char
  | [] => ([], [])
  | c :: s =>
    match spanEnd p s with
    | ([], run) => if p c then ([], c :: run) else ([c], run)
    | (front, run) => (c :: front, run)

def occurs (mark s : List Char) : Bool :=
  (cutFirst? mark s).isSome

theorem after?_eq_some_iff {mark s rest : List Char} :
    after? mark s = some rest ↔ s = mark ++ rest := by
  fun_induction after? mark s with
  | case1 s => simp
  | case2 => simp
  | case3 m mark s ih => simp [ih]
  | case4 m mark c s hne =>
    simp only [reduceCtorEq, List.cons_append, List.cons.injEq, false_iff, not_and]
    exact fun h => absurd h.symm hne

/-- A cut loses nothing: the front, the mark and the rest are the text. -/
theorem cutFirst?_eq_some {mark s front rest : List Char}
    (h : cutFirst? mark s = some (front, rest)) : s = front ++ mark ++ rest := by
  fun_induction cutFirst? mark s generalizing front rest with
  | case1 => simp_all
  | case2 => simp_all
  | case3 c s rest' hp =>
    simp only [Option.some.injEq, Prod.mk.injEq] at h
    obtain ⟨rfl, rfl⟩ := h
    simpa using after?_eq_some_iff.1 hp
  | case4 c s _ ih =>
    obtain ⟨⟨b, t⟩, hb, heq⟩ := Option.map_eq_some_iff.1 h
    simp only [Prod.mk.injEq] at heq
    obtain ⟨rfl, rfl⟩ := heq
    simp [ih hb]

theorem cutLast?_eq_some {mark : Char} {s front rest : List Char}
    (h : cutLast? mark s = some (front, rest)) : s = front ++ mark :: rest := by
  fun_induction cutLast? mark s generalizing front rest with
  | case1 => simp at h
  | case2 c s front' rest' _ ih =>
    simp only [Option.some.injEq, Prod.mk.injEq] at h
    obtain ⟨rfl, rfl⟩ := h
    simp_all
  | case3 => simp_all
  | case4 => simp at h

theorem spanEnd_append (p : Char → Bool) (s : List Char) :
    (spanEnd p s).1 ++ (spanEnd p s).2 = s := by
  fun_induction spanEnd p s <;> simp_all

theorem all_spanEnd (p : Char → Bool) (s : List Char) : (spanEnd p s).2.all p = true := by
  fun_induction spanEnd p s <;> simp_all

end BuildAlign.Text
