import BuildAlign.Text.Cut
import BuildAlign.Version.Basic

/-!
Reading versions. Reading never fails: a text with a character that versions do not use (a range, a
blank, a comma) is taken whole as qualifier. Otherwise four cuts are made, and each of them keeps
every character: the snapshot marker at the end, the core at the start, the build number at the end
of what is left, and the separator in front of the qualifier.
-/

namespace BuildAlign.Version

/-- The characters of a typical version: ASCII letters and digits, separators, plus, tilde, and the
characters of a property reference. -/
def isVersionChar (c : Char) : Bool :=
  c.isAlphanum || isSeparator c || c == '+' || c == '~' || c == '$' || c == '\x7b' || c == '\x7d'

/-- Splits off a trailing `-SNAPSHOT`, in any letter case. -/
def splitSnapshot (raw : List Char) : List Char × Option (List Char) :=
  let front := raw.take (raw.length - snapshotMarker.length)
  let marker := raw.drop (raw.length - snapshotMarker.length)
  if marker.map Char.toUpper = snapshotMarker then (front, some marker) else (raw, none)

/-- Continues a core segment: the further digits of it, the later segments, and the rest. A dot
starts a new segment if a digit follows it. -/
def readSegments : List Char → List Char × List (List Char) × List Char
  | [] => ([], [], [])
  | c :: s =>
    if c.isDigit then
      let (digits, later, rest) := readSegments s
      (c :: digits, later, rest)
    else if c = '.' && (s.head?.map Char.isDigit).getD false then
      let (digits, later, rest) := readSegments s
      ([], digits :: later, rest)
    else ([], [], c :: s)

/-- Splits off the leading core, numerals joined by single dots. -/
def splitCore (s : List Char) : List (List Char) × List Char :=
  if (s.head?.map Char.isDigit).getD false then
    let (digits, later, rest) := readSegments s
    (digits :: later, rest)
  else ([], s)

/-- Splits off a trailing build number: digits after a dot or a dash that is not the first character
left of the version. Digits that exceed 64 bits are no build number. -/
def splitBuild (s : List Char) : List Char × Option Build :=
  let (front, digits) := Text.spanEnd Char.isDigit s
  match front.getLast?, Text.word? digits with
  | some sep, some n =>
    if sep = '.' ∨ sep = '-' then
      (front.dropLast, some { separator := sep, value := n, width := digits.length })
    else (s, none)
  | _, _ => (s, none)

def splitSeparator : List Char → Option Char × List Char
  | [] => (none, [])
  | c :: s => if isSeparator c then (some c, s) else (none, c :: s)

def ofChars (raw : List Char) : Version :=
  if raw.all isVersionChar then
    let (body, snapshot) := splitSnapshot raw
    let (core, rest) := splitCore body
    let (rest, build) := splitBuild rest
    let (separator, qualifier) := splitSeparator rest
    { core, separator, qualifier, build, snapshot }
  else opaqueText raw

def parse (raw : String) : Version :=
  ofChars raw.toList

end BuildAlign.Version
