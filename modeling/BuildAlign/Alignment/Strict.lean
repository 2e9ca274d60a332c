import BuildAlign.Alignment.Error
import BuildAlign.Config.Basic
import BuildAlign.Pattern.Parse
import BuildAlign.Report
import BuildAlign.Version.Base

/-!
The strict check: a replacement must keep the version that it replaces. The rebuild suffix at the
end of the replacement is left out of the comparison, and if so set that of the present version too.
Two versions agree when their texts do, or when they have the same base and build number.
-/

namespace BuildAlign

/-- How a rebuild suffix at the end of a version is recognised. -/
inductive RebuildSuffix where
  /-- A separator and the label, possibly with a separator and a number after it. -/
  | label (text : List Char)
  /-- The leftmost match of a pattern. -/
  | pattern (p : Pattern)
  deriving DecidableEq, Repr

namespace RebuildSuffix

/-- Whether a text is empty, or a separator with a number in the digits of any script. -/
def isBuildTail : List Char → Bool
  | [] => true
  | c :: s => Version.isSeparator c && !s.isEmpty && s.all Unicode.isDigit

/-- Whether a text is a separator, the label, and possibly a number. -/
def isLabelled (label : List Char) : List Char → Bool
  | [] => false
  | c :: s => Version.isSeparator c && (Text.after? label s).any isBuildTail

/-- Where the suffix of a version starts. -/
def start? (version : List Char) : RebuildSuffix → Option Nat
  | label text => (List.range version.length).find? fun i => isLabelled text (version.drop i)
  | pattern p => p.start? version

/-- A pattern that has to match up to the end of the version. -/
def anchored (pattern : String) : String :=
  "(?:" ++ pattern ++ ")$"

end RebuildSuffix

structure StrictPolicy where
  enabled : Bool := false
  failOnViolation : Bool := false
  ignoreSuffix : Bool := false
  suffix : Option RebuildSuffix := none
  /-- The label of the rebuild suffix, at which partly literal versions are joined. -/
  label : Option String := none
  deriving DecidableEq, Repr

namespace StrictPolicy

def ofLabel (label : String) (failOnViolation : Bool) : StrictPolicy :=
  { enabled := true, failOnViolation, suffix := some (.label label.toList), label := some label }

def suffixOf (c : Config) : Except ConfigError (Option RebuildSuffix) :=
  match c.alignment.strict.pattern.bind Text.nonBlank? with
  | some pattern =>
    match Pattern.parse? (RebuildSuffix.anchored pattern) with
    | some p => .ok (some (.pattern p))
    | none => .error (.badPattern pattern)
  | none => .ok (c.rebuildLabel?.map fun label => .label label.toList)

def ofConfig (c : Config) : Except ConfigError StrictPolicy :=
  (suffixOf c).map fun suffix =>
    { enabled := c.alignment.strict.enabled
      failOnViolation := c.alignment.strict.failOnViolation
      ignoreSuffix := c.alignment.strict.ignoreSuffix
      suffix
      label := c.rebuildLabel? }

/-- The version without its rebuild suffix. A suffix that is the whole version is kept. -/
def strip (p : StrictPolicy) (version : String) : String :=
  match p.suffix.bind (RebuildSuffix.start? version.toList) with
  | some (i + 1) => String.ofList (version.toList.take (i + 1))
  | _ => version

def agree (a b : String) : Bool :=
  a == b ||
    (let v := Version.parse a
      let w := Version.parse b
      !v.core.isEmpty && v.sameBase w && v.buildNumber == w.buildNumber)

def check (p : StrictPolicy) (present candidate : String) : Bool :=
  !Text.isBlank present && !Text.isBlank candidate
    && agree (if p.ignoreSuffix then p.strip present else present) (p.strip candidate)

/-- The first candidate that may replace the present version; without the strict check, the first
one. -/
def choose? (p : StrictPolicy) (present : String) (candidates : List String) : Option String :=
  if p.enabled then candidates.find? (p.check present) else candidates.head?

/-- Reports that the given candidate, and every other one, may not replace the present version. -/
def violation (p : StrictPolicy) (report : Report) (module artifact : Artifact)
    (kind : ReferenceKind) (present candidate : String) : Except AlignError Report :=
  if p.failOnViolation then .error (.strictViolation module artifact kind present candidate)
  else
    .ok <| report.warn .strictViolation (some module)
      ("replacing " ++ present ++ " with " ++ candidate ++ " for " ++ kind.word ++ " "
        ++ artifact.text ++ " violates the strict version-alignment rule; skipped")

end StrictPolicy

end BuildAlign
