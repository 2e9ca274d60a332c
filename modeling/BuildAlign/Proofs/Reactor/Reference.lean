import BuildAlign.Proofs.Text.Cutting
import BuildAlign.Reactor.Interpolation
import Mathlib.Data.List.Basic

/-!
Expanding texts that are one reference, and texts without any.
-/

namespace BuildAlign

namespace Template

theorem pieces_of_not_hasReference {raw : String} (hraw : hasReference raw = false) :
    pieces raw.toList = [.plain raw.toList] := by
  have hcut : Text.cutFirst? opening raw.toList = none := by
    simpa [hasReference, Text.occurs] using hraw
  rw [pieces]
  cases raw.toList.length with
  | zero => rfl
  | succ n => rw [piecesUpTo, hcut]

def references (raw : String) : List String :=
  (pieces raw.toList).filterMap fun
    | .plain _ => none
    | .reference name => some (String.ofList name)

theorem references_of_not_hasReference {raw : String} (hraw : hasReference raw = false) :
    references raw = [] := by
  rw [references, pieces_of_not_hasReference hraw]
  rfl

theorem cutFirst?_reference (name : List Char) :
    Text.cutFirst? opening (reference name) = some ([], name ++ [closing]) := by
  rw [reference, List.append_assoc]
  exact Text.cutFirst?_append (by decide) _

theorem hasReference_referenceText (name : String) : hasReference (referenceText name) = true := by
  rw [hasReference, referenceText, String.toList_ofList, Text.occurs, cutFirst?_reference]
  rfl

theorem hasReference_eq_false_iff {raw : String} :
    hasReference raw = false ↔ ¬ opening <:+: raw.toList := by
  rw [hasReference, Bool.eq_false_iff, ne_eq, Text.occurs_iff]

/-- A part of a text without references has none. -/
theorem hasReference_of_infix {raw part : String} (hpart : part.toList <:+: raw.toList)
    (hraw : hasReference raw = false) : hasReference part = false := by
  rw [Bool.eq_false_iff]
  intro hopen
  have hwhole : hasReference raw = true :=
    Text.occurs_iff.mpr ((Text.occurs_iff.mp hopen).trans hpart)
  exact absurd (hwhole.symm.trans hraw) nofun

theorem piecesUpTo_nil (n : Nat) : piecesUpTo n [] = [.plain []] := by
  cases n <;> rfl

theorem pieces_reference {name : List Char} (hname : closing ∉ name) :
    pieces (reference name) = [.plain [], .reference name, .plain []] := by
  have hclose : Text.cutFirst? [closing] (name ++ [closing]) = some (name, []) :=
    Text.cutFirst?_of_not_mem hname []
  have hlength : (reference name).length = name.length + 1 + 1 + 1 := by
    simp [reference, opening]
  rw [pieces, hlength, piecesUpTo, cutFirst?_reference]
  simp only [hclose, piecesUpTo_nil]

/-- A text that is one reference is the reference to its name. -/
theorem single?_eq_some {raw name : String} (h : single? raw = some name) :
    raw = referenceText name ∧ closing ∉ name.toList := by
  simp only [single?, Option.bind_eq_bind, Option.bind_eq_some_iff] at h
  obtain ⟨inner, ⟨rest, hafter, hbefore⟩, hinner⟩ := h
  split at hinner
  · exact absurd hinner nofun
  · rename_i hplain
    obtain rfl : String.ofList inner = name := by simpa using hinner
    have hraw : raw.toList = opening ++ (inner ++ [closing]) := by
      rw [Text.after?_eq_some_iff.mp hafter, ← Text.before?_eq_some_iff.mp hbefore]
    refine ⟨?_, ?_⟩
    · rw [referenceText, reference, String.toList_ofList, List.append_assoc, ← hraw,
        String.ofList_toList]
    · simp only [Bool.or_eq_true, not_or, List.contains_iff_mem] at hplain
      rw [String.toList_ofList]
      exact hplain.2

theorem single?_of_not_hasReference {raw : String} (h : hasReference raw = false) :
    single? raw = none := by
  cases hsingle : single? raw with
  | none => rfl
  | some name =>
    rw [(single?_eq_some hsingle).1, hasReference_referenceText] at h
    exact absurd h nofun

end Template

/-- The text of a property alias, and what its name is not. -/
theorem propertyOf?_eq_some {raw name : String} (h : propertyOf? raw = some name) :
    raw = Template.referenceText name ∧ Template.closing ∉ name.toList ∧
      ProjectPart.ofName? name = none := by
  obtain ⟨hsingle, hbuiltin⟩ := Option.filter_eq_some_iff.mp h
  obtain ⟨hraw, hclosing⟩ := Template.single?_eq_some hsingle
  exact ⟨hraw, hclosing, by simpa [isBuiltin] using hbuiltin⟩

theorem propertyOf?_of_not_hasReference {raw : String} (h : Template.hasReference raw = false) :
    propertyOf? raw = none := by
  rw [propertyOf?, Template.single?_of_not_hasReference h]
  rfl

namespace Reactor

variable (r : Reactor) (id : Nat)

/-- A text without references is its own expansion. -/
theorem expand_of_not_hasReference (depth : Nat) {raw : String}
    (hraw : Template.hasReference raw = false) : r.expand id depth raw.toList = raw.toList := by
  cases depth with
  | zero => rfl
  | succ depth =>
    rw [expand, Template.pieces_of_not_hasReference hraw]
    simp

theorem resolve_of_not_hasReference {raw : String} (hraw : Template.hasReference raw = false) :
    r.resolve id raw = raw := by
  rw [resolve, r.expand_of_not_hasReference id _ hraw, String.ofList_toList]

/-- A reference is expanded to what the text that its name stands for is expanded to. -/
theorem expand_referenceText (depth : Nat) {name value : String}
    (hclosing : Template.closing ∉ name.toList) (hlookup : r.lookup id name = some value) :
    r.expand id (depth + 1) (Template.referenceText name).toList =
      r.expand id depth value.toList := by
  rw [Template.referenceText, String.toList_ofList, expand, Template.pieces_reference hclosing]
  simp [hlookup]

/-- A reference to a property is expanded to what the value of the property is expanded to. -/
theorem expand_reference (depth : Nat) {name value : String}
    (hclosing : Template.closing ∉ name.toList) (hbuiltin : ProjectPart.ofName? name = none)
    (hvalue : r.declaredProperty? id name = some value) :
    r.expand id (depth + 1) (Template.referenceText name).toList =
      r.expand id depth value.toList := by
  have hlookup : r.lookup id name = some value := by
    simp only [lookup, hbuiltin, hvalue]
  exact r.expand_referenceText id depth hclosing hlookup

def expandPiece (depth : Nat) : Template.Piece → List Char
  | .plain text => text
  | .reference name =>
    match r.lookup id (String.ofList name) with
    | some value => r.expand id depth value.toList
    | none => Template.reference name

/-- One level of expansion: every piece is expanded for itself. -/
theorem expand_eq_flatMap (depth : Nat) (raw : List Char) :
    r.expand id (depth + 1) raw = (Template.pieces raw).flatMap (r.expandPiece id depth) := by
  rw [expand]
  refine List.flatMap_congr fun piece _ => ?_
  cases piece <;> rfl

/-- A text that refers only to names which stand for nothing is left as it is. -/
theorem expand_of_unknown {raw : String}
    (hraw : ∀ name ∈ Template.references raw, r.lookup id name = none) (depth : Nat) :
    r.expand id depth raw.toList = raw.toList := by
  cases depth with
  | zero => rfl
  | succ depth =>
    rw [expand_eq_flatMap]
    refine (List.flatMap_congr fun piece hpiece => ?_).trans (Template.chars_pieces raw.toList)
    cases piece with
    | plain text => rfl
    | reference name =>
      have hname : String.ofList name ∈ Template.references raw :=
        List.mem_filterMap.mpr ⟨_, hpiece, rfl⟩
      rw [expandPiece, hraw _ hname]
      rfl

end Reactor

end BuildAlign
