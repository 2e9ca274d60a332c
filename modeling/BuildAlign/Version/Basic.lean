import BuildAlign.Text.Digits

/-!
Structured versions. A version is a numeric core, a qualifier, an optional trailing build number and
an optional snapshot marker:

```text
1.2.GA-foo-3-SNAPSHOT
^^^ ^^^^^^ ^ ^^^^^^^^^
core qualifier build snapshot
```

The parts keep the spelling they were read with: leading zeros of a core segment, the separator in
front of the qualifier, separator and width of the build number, letter case of the marker. So
`Version.chars` is what was read, and only an operation on the version changes its text.

A version is written by `render?`. Writing aborts the run if the build number was read with more
digits than a number can be padded to; otherwise it gives `render`, the text that the parts make.
-/

namespace BuildAlign

/-- The trailing build number: its separator, its value, and the number of digits it is written
with at least. -/
structure Version.Build where
  separator : Char
  value : Nat
  width : Nat
  deriving DecidableEq, Repr

/-- A version in its parts. -/
structure Version where
  /-- Segments of the numeric core, digits as written. -/
  core : List (List Char)
  /-- The separator between core and qualifier. -/
  separator : Option Char
  qualifier : List Char
  build : Option Version.Build
  /-- The snapshot marker as written, with its dash. -/
  snapshot : Option (List Char)
  deriving DecidableEq, Repr

namespace Version

/-- The three characters that separate the parts of a version. -/
def isSeparator (c : Char) : Bool :=
  c == '.' || c == '-' || c == '_'

/-- The marker that `setSnapshot` adds. -/
def snapshotMarker : List Char :=
  ['-', 'S', 'N', 'A', 'P', 'S', 'H', 'O', 'T']

/-- A text that is not split at all: everything is qualifier. -/
def opaqueText (raw : List Char) : Version :=
  { core := [], separator := none, qualifier := raw, build := none, snapshot := none }

def Build.digits (b : Build) : List Char :=
  Text.padded b.width b.value

def Build.chars (b : Build) : List Char :=
  b.separator :: b.digits

/-- The digits as they are written, or nothing if that aborts the run. -/
def Build.digits? (b : Build) : Option (List Char) :=
  Text.padded? b.width b.value

def Build.chars? (b : Build) : Option (List Char) :=
  b.digits?.map fun digits => b.separator :: digits

def joinSegments : List (List Char) → List Char
  | [] => []
  | [s] => s
  | s :: rest => s ++ '.' :: joinSegments rest

def chars (v : Version) : List Char :=
  joinSegments v.core ++ v.separator.toList ++ v.qualifier
    ++ (v.build.map Build.chars).getD [] ++ v.snapshot.getD []

def render (v : Version) : String :=
  String.ofList v.chars

/-- Writes a version: its text, or nothing if the run is aborted at the build number. -/
def chars? (v : Version) : Option (List Char) := do
  let number ← v.build.mapM Build.chars?
  return joinSegments v.core ++ v.separator.toList ++ v.qualifier ++ number.getD []
    ++ v.snapshot.getD []

def render? (v : Version) : Option String :=
  v.chars?.map String.ofList

def buildNumber (v : Version) : Option Nat :=
  v.build.map Build.value

def hasBuildNumber (v : Version) : Bool :=
  v.build.isSome

def isSnapshot (v : Version) : Bool :=
  v.snapshot.isSome

/-- Sets the build number. A present one keeps its separator and width; a new one is attached with
a dash. -/
def setBuild (v : Version) (n : Nat) : Version :=
  { v with build := some (match v.build with
      | some b => { b with value := n }
      | none => { separator := '-', value := n, width := 1 }) }

/-- Adds or removes the snapshot marker. A present marker is kept as written. -/
def setSnapshot (v : Version) (on : Bool) : Version :=
  { v with snapshot := if on then some (v.snapshot.getD snapshotMarker) else none }

end Version

end BuildAlign
