import BuildAlign.Alignment.Dependencies
import BuildAlign.Stage.ProjectVersion
import BuildAlign.Stage.PropertyInjection
import BuildAlign.Stage.Removal
import BuildAlign.Versioning.Apply

/-!
One pass over a reactor: the configured stages one after the other, each on the reactor that the one
before left. A pass that is aborted has no result, so nothing of it is kept.
-/

namespace BuildAlign

/-- What a pass needs besides the reactor and the configuration. -/
structure PassInputs where
  sources : OverrideSources := {}
  /-- Published versions, for the next build number. -/
  candidates : Candidates := ∅
  /-- Property values to inject. -/
  properties : Properties := ∅
  deriving DecidableEq, Repr

namespace VersioningConfig

def run (c : VersioningConfig) (candidates : Candidates) (p : Progress) : Progress :=
  match c.policy? with
  | none => p
  | some policy =>
    (VersionChanges.ofPolicy p.reactor policy c.osgi candidates).apply p.reactor p.report

/-- Replaces the versions of all modules as `run` does; computing them may abort the run. -/
def run? (c : VersioningConfig) (candidates : Candidates) (p : Progress) : Option Progress :=
  match c.policy? with
  | none => some p
  | some policy =>
    (VersionChanges.ofPolicy? p.reactor policy c.osgi candidates).map fun changes =>
      changes.apply p.reactor p.report

end VersioningConfig

/-- What is read from the configuration before the first stage. -/
structure PassRules where
  strict : StrictPolicy
  rules : ExplicitRules
  deriving DecidableEq, Repr

namespace PassRules

/-- The strict check and the explicit rules of a pass, the check first. -/
def read (c : Config) (extra : Table String OverrideMap) : Except AlignError PassRules := do
  let strict ← (StrictPolicy.ofConfig c).mapError .config
  let rules ← (ExplicitRules.parse c.alignment.overrides extra).mapError .invalidOverride
  return { strict, rules }

end PassRules

def Stage.run (c : Config) (inputs : PassInputs) (x : PassRules) (p : Progress) :
    Stage → Except AlignError Progress
  | versioning => .ok (c.versioning.run inputs.candidates p)
  | dependencies =>
    DependencyAlignment.run
      { config := c.alignment, strict := x.strict, sources := inputs.sources, rules := x.rules } p
  | propertyInjection => .ok (PropertyInjection.run inputs.properties p)
  | pluginRemoval => (PluginRemoval.run c.removal.plugins p).mapError .config
  | profileRemoval => .ok (ProfileRemoval.run c.removal.profiles p)
  | enforceProjectVersion =>
    .ok (if c.alignment.enforceProjectVersion then ProjectVersion.run p else p)

/-- A step of a pass as it is carried out: it may end with an error, and it may abort the run. -/
abbrev Attempt :=
  ExceptT AlignError Option

def Stage.run? (c : Config) (inputs : PassInputs) (x : PassRules) (p : Progress) :
    Stage → Attempt Progress
  | versioning => .lift (c.versioning.run? inputs.candidates p)
  | stage => .mk (some (stage.run c inputs x p))

def align (c : Config) (inputs : PassInputs) (r : Reactor) : Except AlignError Progress := do
  let x ← PassRules.read c inputs.sources.extra
  c.stages.foldlM (fun p stage => stage.run c inputs x p.restart) { reactor := r, report := {} }

def align? (c : Config) (inputs : PassInputs) (r : Reactor) : Attempt Progress := do
  let x ← ExceptT.mk (some (PassRules.read c inputs.sources.extra))
  c.stages.foldlM (fun p stage => stage.run? c inputs x p.restart) { reactor := r, report := {} }

end BuildAlign
