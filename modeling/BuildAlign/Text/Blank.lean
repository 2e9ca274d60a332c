/-!
Blank characters and trimming. A character is blank when it has the Unicode property `White_Space`;
trimming drops the blank characters at both ends of a text and nothing else.
-/

namespace BuildAlign.Text

/-- The Unicode property `White_Space`: 25 characters, among them the no-break and the ideographic
space. The zero-width space and the byte-order mark do not have it. -/
def isBlankChar (c : Char) : Bool :=
  let n := c.toNat
  (9 ≤ n && n ≤ 13) || n == 32 || n == 0x85 || n == 0xA0 || n == 0x1680
    || (0x2000 ≤ n && n ≤ 0x200A) || n == 0x2028 || n == 0x2029 || n == 0x202F || n == 0x205F
    || n == 0x3000

def trim (s : List Char) : List Char :=
  ((s.dropWhile isBlankChar).reverse.dropWhile isBlankChar).reverse

def trimmed (s : String) : String :=
  String.ofList (trim s.toList)

/-- Whether every character is blank; the empty text is blank. -/
def isBlank (s : String) : Bool :=
  s.toList.all isBlankChar

def nonBlank? (s : String) : Option String :=
  if isBlank s then none else some (trimmed s)

theorem isBlank_iff {s : String} : isBlank s = true ↔ ∀ c ∈ s.toList, isBlankChar c = true := by
  simp [isBlank]

end BuildAlign.Text
