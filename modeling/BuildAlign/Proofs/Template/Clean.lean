import BuildAlign.Proofs.Reactor.Reference

/-!
Clean texts: plain text without dollar signs, and references to names without dollar signs and
closing braces, one after the other. However a clean text is put together, reading it finds the
references that it was put together from, in their places.
-/

namespace BuildAlign

namespace Template

/-- Plain text without a dollar sign, or a reference to a name that holds neither a dollar sign nor
a closing brace. -/
def Piece.Clean : Piece → Prop
  | plain text => '$' ∉ text
  | reference name => '$' ∉ name ∧ closing ∉ name

instance : (p : Piece) → Decidable p.Clean
  | .plain text => inferInstanceAs (Decidable ('$' ∉ text))
  | .reference name => inferInstanceAs (Decidable ('$' ∉ name ∧ closing ∉ name))

/-- A text that is put together from clean pieces. -/
def Clean (s : List Char) : Prop :=
  ∃ ps : List Piece, (∀ p ∈ ps, p.Clean) ∧ ps.flatMap Piece.chars = s

/-! ## Reading one piece -/

theorem piecesUpTo_of_length_le {n m : Nat} {s : List Char} (hn : s.length ≤ n)
    (hm : s.length ≤ m) : piecesUpTo n s = piecesUpTo m s := by
  induction n generalizing m s with
  | zero =>
    obtain rfl := List.length_eq_zero_iff.mp (Nat.le_zero.mp hn)
    rw [piecesUpTo_nil, piecesUpTo_nil]
  | succ n ih =>
    cases m with
    | zero =>
      obtain rfl := List.length_eq_zero_iff.mp (Nat.le_zero.mp hm)
      rw [piecesUpTo_nil, piecesUpTo_nil]
    | succ m =>
      rw [piecesUpTo, piecesUpTo]
      cases hopen : Text.cutFirst? opening s with
      | none => rfl
      | some cut =>
        obtain ⟨front, inner⟩ := cut
        cases hclose : Text.cutFirst? [closing] inner with
        | none => simp only [hclose]
        | some cut =>
          obtain ⟨name, rest⟩ := cut
          have hlength : rest.length < s.length := by
            rw [Text.cutFirst?_eq_some hopen, Text.cutFirst?_eq_some hclose]
            simp only [List.length_append, opening, List.length_cons, List.length_nil]
            omega
          have hrest : piecesUpTo n rest = piecesUpTo m rest := ih (by omega) (by omega)
          simp only [hclose, hrest]

/-- The first reference of a text is its second piece. -/
theorem pieces_of_cut {s front inner name rest : List Char}
    (hopen : Text.cutFirst? opening s = some (front, inner))
    (hclose : Text.cutFirst? [closing] inner = some (name, rest)) :
    pieces s = .plain front :: .reference name :: pieces rest := by
  have hlength : s.length = front.length + name.length + rest.length + 3 := by
    rw [Text.cutFirst?_eq_some hopen, Text.cutFirst?_eq_some hclose]
    simp only [List.length_append, opening, List.length_cons, List.length_nil]
    omega
  rw [pieces, hlength, piecesUpTo, hopen]
  simp only [hclose]
  rw [pieces, piecesUpTo_of_length_le (by omega) (Nat.le_refl rest.length)]

theorem pieces_of_cut_eq_none {s : List Char} (hopen : Text.cutFirst? opening s = none) :
    pieces s = [.plain s] := by
  rw [pieces]
  cases s.length with
  | zero => rfl
  | succ n => rw [piecesUpTo, hopen]

theorem pieces_of_close_eq_none {s front inner : List Char}
    (hopen : Text.cutFirst? opening s = some (front, inner))
    (hclose : Text.cutFirst? [closing] inner = none) : pieces s = [.plain s] := by
  rw [pieces]
  cases s.length with
  | zero => rfl
  | succ n =>
    rw [piecesUpTo, hopen]
    simp only [hclose]

/-- A reference in front of a text is read as one. -/
theorem pieces_reference_append {name : List Char} (hname : closing ∉ name) (s : List Char) :
    pieces (reference name ++ s) = .plain [] :: .reference name :: pieces s := by
  have htext : reference name ++ s = opening ++ (name ++ closing :: s) := by
    simp only [reference, List.append_assoc, List.cons_append, List.nil_append]
  rw [htext]
  exact pieces_of_cut (Text.cutFirst?_append (by decide) _) (Text.cutFirst?_of_not_mem hname s)

section

variable {α : Type} {f : Piece → List α}
  (hplain : ∀ s t, f (.plain (s ++ t)) = f (.plain s) ++ f (.plain t))

include hplain

/-- Plain text in front of a text is read as plain text. -/
theorem flatMap_pieces_plain {text : List Char} (htext : '$' ∉ text) (s : List Char) :
    (pieces (text ++ s)).flatMap f = f (.plain text) ++ (pieces s).flatMap f := by
  have hcut : Text.cutFirst? opening (text ++ s) =
      (Text.cutFirst? opening s).map fun cut => (text ++ cut.1, cut.2) :=
    Text.cutFirst?_append_of_not_mem htext s
  cases hopen : Text.cutFirst? opening s with
  | none =>
    rw [hopen, Option.map_none] at hcut
    rw [pieces_of_cut_eq_none hcut, pieces_of_cut_eq_none hopen]
    simp only [List.flatMap_singleton, hplain]
  | some cut =>
    obtain ⟨front, inner⟩ := cut
    rw [hopen, Option.map_some] at hcut
    cases hclose : Text.cutFirst? [closing] inner with
    | none =>
      rw [pieces_of_close_eq_none hcut hclose, pieces_of_close_eq_none hopen hclose]
      simp only [List.flatMap_singleton, hplain]
    | some cut =>
      obtain ⟨name, rest⟩ := cut
      rw [pieces_of_cut hcut hclose, pieces_of_cut hopen hclose]
      simp only [List.flatMap_cons, hplain, List.append_assoc]

/-- What is read off the pieces of a clean text may be read off any clean pieces that it is put
together from, if it does not matter how plain text is cut. -/
theorem flatMap_pieces {ps : List Piece} (hps : ∀ p ∈ ps, p.Clean) :
    (pieces (ps.flatMap Piece.chars)).flatMap f = ps.flatMap f := by
  have hempty : f (.plain []) = [] := by
    have hlength := congrArg List.length (hplain [] [])
    rw [List.append_nil, List.length_append] at hlength
    exact List.length_eq_zero_iff.mp (by omega)
  induction ps with
  | nil =>
    rw [List.flatMap_nil, pieces_of_cut_eq_none rfl, List.flatMap_singleton, hempty]
    rfl
  | cons p later ih =>
    obtain ⟨hp, hlater⟩ := List.forall_mem_cons.mp hps
    rw [List.flatMap_cons, List.flatMap_cons]
    cases p with
    | plain text =>
      have hread := flatMap_pieces_plain hplain hp (later.flatMap Piece.chars)
      rw [ih hlater] at hread
      exact hread
    | reference name =>
      have hread := pieces_reference_append hp.2 (later.flatMap Piece.chars)
      rw [Piece.chars, hread, List.flatMap_cons, List.flatMap_cons, ih hlater, hempty]
      rfl

end

/-- The names that a clean text refers to are those of its pieces. -/
theorem mem_references_of_clean {raw : String} {ps : List Piece} (hps : ∀ p ∈ ps, p.Clean)
    (hraw : ps.flatMap Piece.chars = raw.toList) {name : String} :
    name ∈ references raw ↔ ∃ chars, .reference chars ∈ ps ∧ String.ofList chars = name := by
  let read : Piece → List String
    | .plain _ => []
    | .reference chars => [String.ofList chars]
  have hread : references raw = (pieces raw.toList).flatMap read := by
    rw [references, List.filterMap_eq_flatMap_toList]
    refine List.flatMap_congr fun p _ => ?_
    cases p <;> rfl
  rw [hread, ← hraw, flatMap_pieces (fun _ _ => rfl) hps, List.mem_flatMap]
  constructor
  · rintro ⟨p, hp, hname⟩
    cases p with
    | plain text => cases hname
    | reference chars => exact ⟨chars, hp, (List.mem_singleton.mp hname).symm⟩
  · rintro ⟨chars, hp, rfl⟩
    exact ⟨_, hp, List.mem_singleton.mpr rfl⟩

/-! ## References anywhere in a text -/

theorem infix_of_append_of_not_mem {c : Char} {mark text s : List Char} (hc : c ∉ text)
    (h : c :: mark <:+: text ++ s) : c :: mark <:+: s := by
  induction text with
  | nil => exact h
  | cons d text ih =>
    obtain ⟨hne, htext⟩ := List.ne_and_not_mem_of_not_mem_cons hc
    rcases List.infix_cons_iff.mp h with hprefix | hoccurs
    · exact absurd (List.cons_prefix_cons.mp hprefix).1 hne
    · exact ih htext hoccurs

/-- A reference that occurs in a clean text is one of its pieces. -/
theorem mem_of_reference_infix {ps : List Piece} (hps : ∀ p ∈ ps, p.Clean) {name : List Char}
    (hname : closing ∉ name) (h : reference name <:+: ps.flatMap Piece.chars) :
    .reference name ∈ ps := by
  induction ps with
  | nil => exact absurd (List.infix_nil.mp h) (List.cons_ne_nil _ _)
  | cons p later ih =>
    obtain ⟨hp, hlater⟩ := List.forall_mem_cons.mp hps
    rw [List.flatMap_cons] at h
    cases p with
    | plain text =>
      exact List.mem_cons_of_mem _ (ih hlater (infix_of_append_of_not_mem hp h))
    | reference other =>
      rcases List.infix_cons_iff.mp h with ⟨rest, hrest⟩ | hoccurs
      · -- both names end at the first closing brace
        have hcut := Text.cutFirst?_of_not_mem hname rest
        have hother := Text.cutFirst?_of_not_mem hp.2 (later.flatMap Piece.chars)
        have htext : name ++ closing :: rest = other ++ closing :: later.flatMap Piece.chars := by
          simpa [reference, opening, Piece.chars] using hrest
        rw [htext, hother] at hcut
        obtain ⟨rfl, _⟩ := Prod.mk.inj (Option.some.inj hcut)
        exact List.mem_cons_self ..
      · have hinside : '$' ∉ '\x7b' :: (other ++ [closing]) := by
          simpa [closing] using hp.1
        exact List.mem_cons_of_mem _ (ih hlater (infix_of_append_of_not_mem hinside hoccurs))

end Template

end BuildAlign
