import BuildAlign.Text.Blank
import BuildAlign.Unicode.CaseFolding
import BuildAlign.Unicode.DecimalDigit
import BuildAlign.Unicode.Word

/-!
Sets of characters as patterns write them: ranges, tables, the classes of digits, word characters and
blanks, the Boolean operations, and the closure under letter case.
-/

namespace BuildAlign

/-- An expression for a set of characters. -/
inductive CharSet where
  | empty
  | range (first last : Char)
  /-- Ranges of code points, first and last one. -/
  | table (ranges : List (Nat × Nat))
  /-- Decimal digits of all scripts. -/
  | digit
  /-- Word characters of all scripts. -/
  | word
  /-- Blank characters. -/
  | blank
  | union (s t : CharSet)
  | inter (s t : CharSet)
  | compl (s : CharSet)
  /-- All characters that differ from a member at most in case. -/
  | anyCase (s : CharSet)
  /-- The same for ASCII letters only. -/
  | anyAsciiCase (s : CharSet)
  deriving DecidableEq, Repr

namespace CharSet

def contains : CharSet → Char → Bool
  | empty, _ => false
  | range first last, c => first ≤ c && c ≤ last
  | table ranges, c => ranges.any fun (first, last) => first ≤ c.toNat && c.toNat ≤ last
  | digit, c => Unicode.isDigit c
  | word, c => Unicode.isWord c
  | blank, c => Text.isBlankChar c
  | union s t, c => s.contains c || t.contains c
  | inter s t, c => s.contains c && t.contains c
  | compl s, c => !s.contains c
  | anyCase s, c => (Unicode.caseVariants c).any s.contains
  | anyAsciiCase s, c => s.contains c || s.contains c.toLower || s.contains c.toUpper

def single (c : Char) : CharSet :=
  range c c

def unions (sets : List CharSet) : CharSet :=
  sets.foldl union empty

def difference (s t : CharSet) : CharSet :=
  inter s (compl t)

def symmetricDifference (s t : CharSet) : CharSet :=
  union (difference s t) (difference t s)

def complIf (negated : Bool) (s : CharSet) : CharSet :=
  if negated then compl s else s

def asciiDigit : CharSet :=
  range '0' '9'

def asciiLower : CharSet :=
  range 'a' 'z'

def asciiUpper : CharSet :=
  range 'A' 'Z'

def asciiAlpha : CharSet :=
  union asciiLower asciiUpper

def asciiAlphanumeric : CharSet :=
  union asciiDigit asciiAlpha

def asciiWord : CharSet :=
  union asciiAlphanumeric (single '_')

def asciiBlank : CharSet :=
  union (range '\t' '\r') (single ' ')

/-- The sets that are named in brackets with colons. -/
def named? : String → Option CharSet
  | "alnum" => some asciiAlphanumeric
  | "alpha" => some asciiAlpha
  | "ascii" => some (range '\x00' '\x7f')
  | "blank" => some (union (single '\t') (single ' '))
  | "cntrl" => some (union (range '\x00' '\x1f') (single '\x7f'))
  | "digit" => some asciiDigit
  | "graph" => some (range '!' '~')
  | "lower" => some asciiLower
  | "print" => some (range ' ' '~')
  | "punct" => some (difference (range '!' '~') asciiAlphanumeric)
  | "space" => some asciiBlank
  | "upper" => some asciiUpper
  | "word" => some asciiWord
  | "xdigit" => some (unions [asciiDigit, range 'a' 'f', range 'A' 'F'])
  | _ => none

end CharSet

end BuildAlign
