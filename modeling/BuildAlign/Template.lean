import BuildAlign.Text.Cut

/-!
Texts with property references. A text is read as pieces: plain text and references, a name between
a dollar sign with an opening brace and the next closing brace. A reference that is not closed is
plain text. Writing the pieces gives the text back.
-/

namespace BuildAlign

/-- A stretch of plain text, or the name of a referenced property. -/
inductive Template.Piece where
  | plain (text : List Char)
  | reference (name : List Char)
  deriving DecidableEq, Repr

namespace Template

def opening : List Char :=
  ['$', '\x7b']

def closing : Char :=
  '\x7d'

def reference (name : List Char) : List Char :=
  opening ++ name ++ [closing]

/-- `Template.reference` on strings. -/
def referenceText (name : String) : String :=
  String.ofList (reference name.toList)

/-- The written form of a piece. -/
def Piece.chars : Piece → List Char
  | plain text => text
  | .reference name => Template.reference name

/-- Whether a reference is opened anywhere in the text. -/
def hasReference (raw : String) : Bool :=
  Text.occurs opening raw.toList

/-- The pieces of a text of at most the given length, in order. -/
def piecesUpTo : Nat → List Char → List Piece
  | 0, s => [.plain s]
  | n + 1, s =>
    match Text.cutFirst? opening s with
    | none => [.plain s]
    | some (front, inner) =>
      match Text.cutFirst? [closing] inner with
      | none => [.plain s]
      | some (name, rest) => .plain front :: .reference name :: piecesUpTo n rest

def pieces (s : List Char) : List Piece :=
  piecesUpTo s.length s

/-- The name in a text that is exactly one reference. The name is not empty and holds neither a
closing brace nor another opening. -/
def single? (raw : String) : Option String := do
  let inner ← (Text.after? opening raw.toList).bind (Text.before? [closing])
  if inner.isEmpty || Text.occurs opening inner || inner.contains closing then none
  else some (String.ofList inner)

theorem chars_piecesUpTo (n : Nat) (s : List Char) :
    (piecesUpTo n s).flatMap Piece.chars = s := by
  fun_induction piecesUpTo n s with
  | case1 => simp [Piece.chars]
  | case2 => simp [Piece.chars]
  | case3 => simp [Piece.chars]
  | case4 s n front inner h name rest h' ih =>
    simp [Piece.chars, reference, ih, Text.cutFirst?_eq_some h, Text.cutFirst?_eq_some h']

/-- Reading into pieces loses nothing. -/
theorem chars_pieces (s : List Char) : (pieces s).flatMap Piece.chars = s :=
  chars_piecesUpTo _ _

end Template

end BuildAlign
