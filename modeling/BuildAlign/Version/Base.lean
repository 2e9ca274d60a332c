import BuildAlign.Version.Parse

/-!
The base of a version: its core and its qualifier label, without build number and snapshot marker.
Build numbers count within one base. Core segments are compared as numbers with trailing zero
segments left out; labels are compared without letter case, and all separators are alike in them.
-/

namespace BuildAlign.Version

/-- What two versions of the same base have in common. -/
structure Base where
  core : List (List Char)
  label : List Char
  deriving DecidableEq, Repr

/-- A core segment without leading zeros; zero keeps one digit. -/
def bareSegment (segment : List Char) : List Char :=
  match segment.dropWhile (· == '0') with
  | [] => ['0']
  | digits => digits

/-- Drops the zero segments at the end, but never the first segment. -/
def dropZeros : List (List Char) → List (List Char)
  | [] => []
  | first :: rest => first :: (rest.reverse.dropWhile (· == ['0'])).reverse

def labelChar (c : Char) : Char :=
  if isSeparator c then '-' else c.toLower

def base (v : Version) : Base :=
  { core := dropZeros (v.core.map bareSegment), label := v.qualifier.map labelChar }

def sameBase (v w : Version) : Bool :=
  v.base == w.base

/-- The build number that a published version adds to the count of a base: it has that base, a build
number, and one that can still be increased within 64 bits. -/
def countedBuild? (base : Base) (published : String) : Option Nat :=
  let w := parse published
  if w.base = base then w.buildNumber.filter (· < Text.maxWord) else none

/-- The highest build number among published versions of the same base, zero if there is none. -/
def highestBuild (v : Version) (published : List String) : Nat :=
  (published.filterMap (countedBuild? v.base)).foldl max 0

end BuildAlign.Version
