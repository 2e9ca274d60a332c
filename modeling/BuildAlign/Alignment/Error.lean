import BuildAlign.Override.Error
import BuildAlign.Reactor.Basic
import BuildAlign.Template

/-!
Why a pass is aborted. Problems that are not set to be fatal are warnings of the report instead.
-/

namespace BuildAlign

inductive ReferenceKind where
  | dependency
  | plugin
  | parent
  deriving DecidableEq, Repr

def ReferenceKind.word : ReferenceKind → String
  | dependency => "dependency"
  | plugin => "plugin"
  | parent => "parent"

inductive ConfigError where
  | badPattern (pattern : String)
  | badPlugin (text : String) (cause : IdentityError)
  deriving DecidableEq, Repr

def ConfigError.message : ConfigError → String
  | badPattern pattern =>
    "config error: alignment.strict: invalid rebuild suffix pattern `" ++ pattern ++ "`"
  | badPlugin text cause =>
    "config error: removal.plugins: `" ++ text ++ "`: " ++ cause.message

/-- Why a pass is aborted. -/
inductive AlignError where
  /-- No candidate keeps the present version. -/
  | strictViolation (module artifact : Artifact) (kind : ReferenceKind)
    (present candidate : String)
  /-- Two demands on one property. -/
  | propertyClash (module : Artifact) (property existing rejected : String) (artifact : Artifact)
  /-- A declaration follows a property to a version that it was not aligned to. -/
  | propertyValidation (module : Artifact) (property : String) (artifact : Artifact)
    (new : String)
  | invalidOverride (cause : OverrideError)
  | invalidReactor (fault : ReactorFault)
  | config (cause : ConfigError)
  deriving DecidableEq, Repr

/-- The explanation for the reader of the log, and what to do about it. -/
def AlignError.message : AlignError → String
  | strictViolation module artifact kind present candidate =>
    kind.word ++ " " ++ artifact.text ++ " in module " ++ module.text ++ ": replacing " ++ present
      ++ " with " ++ candidate ++ " violates the strict version-alignment rule.\n  To fix: "
      ++ "add an explicit override for " ++ artifact.text
      ++ ", or set alignment.strict.fail_on_violation = false to skip it with a warning"
  | propertyClash module property existing rejected artifact =>
    "property " ++ Template.referenceText property ++ " in module " ++ module.text
      ++ " would be set to both " ++ existing ++ " and " ++ rejected
      ++ " (the latter demanded by " ++ artifact.text ++ ").\n  To fix: "
      ++ "add an explicit override for " ++ artifact.text
      ++ ", give the dependencies separate version properties, "
      ++ "or set alignment.fail_on_property_clash = false"
  | propertyValidation module property artifact new =>
    artifact.text ++ " in module " ++ module.text ++ " uses " ++ Template.referenceText property
      ++ ", which was updated to " ++ new ++ " for other dependencies, but " ++ artifact.text
      ++ " was not aligned to that version.\n  To fix: give " ++ artifact.text
      ++ " its own version property, or lower alignment.property_validation to \"warn\""
  | invalidOverride cause => cause.message
  | invalidReactor fault =>
    "invalid reactor: " ++ fault.message
      ++ ".\n  To fix: check the reactor snapshot's parent indices and module list"
  | config cause => cause.message

end BuildAlign
