import BuildAlign.Coordinate.Parse

/-!
Why an override cannot be used.
-/

namespace BuildAlign

inductive OverrideFault where
  | identity (cause : IdentityError)
  | wildcardGroup
  | unknownBom (name : String)
  deriving DecidableEq, Repr

def OverrideFault.message : OverrideFault → String
  | identity cause => cause.message
  | wildcardGroup => "the group of a target cannot be a wildcard"
  | unknownBom name => "no extra BOM named `" ++ name ++ "` was supplied"

structure OverrideError where
  value : String
  fault : OverrideFault
  deriving DecidableEq, Repr

def OverrideError.message (e : OverrideError) : String :=
  "invalid override `" ++ e.value ++ "`: " ++ e.fault.message
    ++ ".\n  To fix: use `group:artifact` or `group:*` targets and a version, `\"\"`, "
    ++ "or `bom:<name>`"

end BuildAlign
