import BuildAlign.Coordinate.Basic
import BuildAlign.Version.Base
import BuildAlign.Version.Osgi
import BuildAlign.Version.Suffix

/-!
How one version is rebuilt. A policy replaces the version by a fixed one, if it says so, and appends
a suffix: the same one every time, or a label with the next free build number. For the count, the
version itself is one of the published ones, so that rebuilding a rebuilt version moves on.
-/

namespace BuildAlign

/-- What is appended to a version. -/
inductive Suffix where
  | none
  /-- This suffix as it is. -/
  | fixed (text : String)
  /-- This label with the next free build number. -/
  | incremental (label : String)
  deriving DecidableEq, Repr

structure VersionPolicy where
  /-- The version to use in place of the present one. -/
  override : Option String := .none
  suffix : Suffix := .none
  /-- Whether suffixed versions keep their snapshot marker. -/
  keepSnapshot : Bool := false
  deriving DecidableEq, Repr

/-- Published versions by artifact. -/
abbrev Candidates := Table Artifact (List String)

def Candidates.versions (c : Candidates) (a : Artifact) : List String :=
  Table.getD c a []

namespace VersionPolicy

def start (policy : VersionPolicy) (present : String) : String :=
  policy.override.getD present

def settleSnapshot (policy : VersionPolicy) (v : Version) : Version :=
  if policy.keepSnapshot then v else v.setSnapshot false

/-- Raises the build number to at least `n`. -/
def raiseBuild (v : Version) (n : Nat) : Version :=
  if v.buildNumber.getD 0 < n then v.setBuild n else v

/-- The rebuilt form of a version, given the published versions of its artifact. -/
def rebuild (policy : VersionPolicy) (present : String) (published : List String) : Version :=
  let base := policy.start present
  let v := Version.parse base
  match policy.suffix with
  | .none => v
  | .fixed text => policy.settleSnapshot (v.appendSuffix text.toList)
  | .incremental label =>
    let labelled := v.appendSuffix label.toList
    policy.settleSnapshot
      (raiseBuild labelled (labelled.highestBuild (published ++ [base]) + 1))

/-- Rebuilds a version. Only appending the suffix writes anything, and may abort the run. -/
def rebuild? (policy : VersionPolicy) (present : String) (published : List String) :
    Option Version := do
  let base := policy.start present
  let v := Version.parse base
  match policy.suffix with
  | .none => return v
  | .fixed text => return policy.settleSnapshot (← v.appendSuffix? text.toList)
  | .incremental label =>
    let labelled ← v.appendSuffix? label.toList
    return policy.settleSnapshot
      (raiseBuild labelled (labelled.highestBuild (published ++ [base]) + 1))

def calculate (policy : VersionPolicy) (a : Artifact) (present : String) (c : Candidates) :
    Version :=
  policy.rebuild present (c.versions a)

def calculate? (policy : VersionPolicy) (a : Artifact) (present : String) (c : Candidates) :
    Option Version :=
  policy.rebuild? present (c.versions a)

end VersionPolicy

end BuildAlign
