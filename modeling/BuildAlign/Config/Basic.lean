import BuildAlign.Override.Merge
import BuildAlign.Override.Rule
import BuildAlign.Text.Blank
import BuildAlign.Text.Cut
import BuildAlign.Text.Digits
import BuildAlign.Versioning.Policy

/-!
The settings of a pass: how module versions are changed, which overrides count and how strictly,
what is removed, and which stages run in which order. Texts are kept as given; what is blank counts
as not set.
-/

namespace BuildAlign

/-- How module versions are changed. A fixed suffix is used before an incremental one. -/
structure VersioningConfig where
  /-- The version of every module, in place of its own. -/
  override : Option String := none
  suffix : Option String := none
  incrementalSuffix : Option String := none
  keepSnapshot : Bool := false
  /-- Whether changed versions are in OSGi form. -/
  osgi : Bool := true
  deriving DecidableEq, Repr

inductive ValidationLevel where
  | off
  | warn
  | fail
  deriving DecidableEq, Repr

namespace ValidationLevel

def word : ValidationLevel → String
  | off => "off"
  | warn => "warn"
  | fail => "fail"

def all : List ValidationLevel :=
  [off, warn, fail]

end ValidationLevel

structure StrictConfig where
  enabled : Bool := false
  failOnViolation : Bool := false
  /-- Whether a rebuild suffix of the present version is left out of the comparison too. -/
  ignoreSuffix : Bool := false
  /-- The label of the rebuild suffix, in place of the label of the version suffix. -/
  rebuildSuffix : Option String := none
  /-- A pattern for the rebuild suffix, in place of any label. -/
  pattern : Option String := none
  deriving DecidableEq, Repr

structure AlignmentConfig where
  precedence : Precedence := .restThenBom
  /-- Whether overrides that no managed dependency of a root matches are added to it. -/
  overrideTransitive : Bool := false
  enforceProjectVersion : Bool := true
  failOnPropertyClash : Bool := false
  propertyValidation : ValidationLevel := .off
  strict : StrictConfig := {}
  overrides : List RuleConfig := []
  deriving DecidableEq, Repr

structure RemovalConfig where
  plugins : List String := []
  profiles : List String := []
  deriving DecidableEq, Repr

inductive Stage where
  | versioning
  | dependencies
  | propertyInjection
  | pluginRemoval
  | profileRemoval
  | enforceProjectVersion
  deriving DecidableEq, Repr

namespace Stage

def word : Stage → String
  | versioning => "versioning"
  | dependencies => "dependencies"
  | propertyInjection => "property-injection"
  | pluginRemoval => "plugin-removal"
  | profileRemoval => "profile-removal"
  | enforceProjectVersion => "enforce-project-version"

def all : List Stage :=
  [versioning, dependencies, propertyInjection, pluginRemoval, profileRemoval,
    enforceProjectVersion]

end Stage

structure Config where
  versioning : VersioningConfig := {}
  alignment : AlignmentConfig := {}
  removal : RemovalConfig := {}
  /-- The stages to run, in this order; a stage may be left out or run again. -/
  stages : List Stage := Stage.all
  deriving DecidableEq, Repr

namespace VersioningConfig

def suffixPolicy (c : VersioningConfig) : Suffix :=
  match c.suffix.bind Text.nonBlank?, c.incrementalSuffix.bind Text.nonBlank? with
  | some s, _ => .fixed s
  | none, some s => .incremental s
  | none, none => .none

/-- The version policy; nothing when there is neither a version nor a suffix to use. -/
def policy? (c : VersioningConfig) : Option VersionPolicy :=
  let override := c.override.bind Text.nonBlank?
  if override = none ∧ c.suffixPolicy = .none then none
  else some { override, suffix := c.suffixPolicy, keepSnapshot := c.keepSnapshot }

def suffixLabel? (c : VersioningConfig) : Option String :=
  ((c.suffix.bind Text.nonBlank?).or (c.incrementalSuffix.bind Text.nonBlank?)).map fun raw =>
    match Text.cutLast? '-' raw.toList with
    | some (label, digits) => if Text.isNumeral digits then String.ofList label else raw
    | none => raw

end VersioningConfig

/-- The label of the rebuild suffix: the one set for the strict check, or else the label of the
version suffix. -/
def Config.rebuildLabel? (c : Config) : Option String :=
  (c.alignment.strict.rebuildSuffix.bind Text.nonBlank?).or c.versioning.suffixLabel?

end BuildAlign
