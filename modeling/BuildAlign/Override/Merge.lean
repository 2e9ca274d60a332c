import BuildAlign.Override.Map
import BuildAlign.Report

/-!
Merging the two sources of overrides. Where both have entries for one artifact, the entries of the
losing source for it are all dropped, so that no version of the loser survives.
-/

namespace BuildAlign

/-- Which source of overrides counts, or wins for an artifact that both have. -/
inductive Precedence where
  | bom
  | rest
  | restThenBom
  | bomThenRest
  deriving DecidableEq, Repr

namespace Precedence

def word : Precedence → String
  | bom => "bom"
  | rest => "rest"
  | restThenBom => "rest-then-bom"
  | bomThenRest => "bom-then-rest"

def all : List Precedence :=
  [bom, rest, restThenBom, bomThenRest]

end Precedence

/-- The sources of overrides for one pass; the named extra ones serve explicit rules only. -/
structure OverrideSources where
  bom : OverrideMap := ∅
  rest : OverrideMap := ∅
  extra : Table String OverrideMap := ∅
  deriving DecidableEq, Repr

namespace OverrideMap

/-- The lower map without the artifacts of the higher one, followed by the higher one. -/
def layer (lower higher : OverrideMap) : OverrideMap :=
  (lower.without higher.artifacts).extend higher

end OverrideMap

namespace OverrideSources

def merge (s : OverrideSources) : Precedence → OverrideMap
  | .bom => s.bom
  | .rest => s.rest
  | .restThenBom => s.bom.layer s.rest
  | .bomThenRest => s.rest.layer s.bom

def mergeWarning? (s : OverrideSources) : Precedence → Option String
  | .bom =>
    if s.bom.isEmpty then some "BOM precedence selected but no BOM overrides were supplied"
    else none
  | .rest =>
    if s.rest.isEmpty then
      some "REST precedence selected but the alignment service returned no overrides"
    else none
  | _ => none

end OverrideSources

end BuildAlign
