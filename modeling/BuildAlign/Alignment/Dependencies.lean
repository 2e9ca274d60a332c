import BuildAlign.Alignment.Evaluation

/-!
The alignment of dependencies. Modules are visited roots first. In each one the overrides are
matched with the declared parent of a root and with every declaration; then explicit rules are
applied to the same declarations. Demands on properties are gathered over the whole reactor,
validated, and written at the end.
-/

namespace BuildAlign

structure DependencyAlignment where
  config : AlignmentConfig
  strict : StrictPolicy
  sources : OverrideSources
  rules : ExplicitRules
  deriving DecidableEq, Repr

namespace DependencyAlignment

/-- The state of the alignment: the progress so far, and the demands on properties. -/
structure State where
  progress : Progress
  ledger : PropertyLedger := ∅
  deriving DecidableEq, Repr

/-- What is the same for all declarations of one module. -/
structure Visit where
  module : Nat
  artifact : Artifact
  /-- The overrides that are not excluded in the module. -/
  overrides : OverrideMap
  rules : ExplicitRules

def evaluator (a : DependencyAlignment) : Evaluator :=
  { strict := a.strict, failOnPropertyClash := a.config.failOnPropertyClash }

def applyStep (site : Site) (p : Progress) (step : Step) : Progress :=
  let p := { p with report := p.report.tally step.outcome }
  match step with
  | .done _ => p
  | .replace version =>
    let address := site.declaration.address
    p.edit (p.reactor.setSlot site.module address version) site.module site.moduleArtifact
      (.declaration address site.artifact) ((p.reactor.module site.module).slot? address).join
      (some version)

def perform (site : Site) (s : State) (evaluate : Evaluation → Evaluated) :
    Except AlignError State := do
  let (step, after) ← evaluate { ledger := s.ledger, report := s.progress.report }
  return {
    progress := applyStep site { s.progress with report := after.report } step
    ledger := after.ledger }

/-- Aligns one declaration: with the override entries for its artifact, and then with the version
that explicit rules force for it. -/
def alignDeclaration (a : DependencyAlignment) (v : Visit) (s : State) (d : Declaration) :
    Except AlignError State := do
  let r := s.progress.reactor
  let site := Site.of r v.module v.artifact d
  let entries := v.overrides.entriesOf site.artifact
  let s ←
    if entries.isEmpty then pure s
    else perform site s (a.evaluator.evaluate r · site entries v.rules)
  match v.rules.versionFor? site.artifact with
  | none => return s
  | some version =>
    perform site s (a.evaluator.evaluateExplicit s.progress.reactor · site version)

/-- The version to which the overrides move a declared parent, and the report on the strict check.
-/
def parentTarget (a : DependencyAlignment) (v : Visit) (p : Progress) (parent : Parent) :
    Except AlignError (Option String × Report) :=
  let present := p.reactor.resolve v.module parent.version
  match candidateVersions (v.overrides.entriesOf parent.artifact) with
  | [] => .ok (none, p.report)
  | first :: others =>
    match a.strict.choose? present (first :: others) with
    | some target => .ok (some target, p.report)
    | none =>
      (a.strict.violation p.report v.artifact parent.artifact .parent present first).map (none, ·)

/-- Aligns the declared parent of a root. A version that explicit rules force comes first. -/
def alignParent (a : DependencyAlignment) (v : Visit) (p : Progress) :
    Except AlignError Progress := do
  match (p.reactor.module v.module).parent with
  | none => return p
  | some parent =>
    let (target, report) ← a.parentTarget v p parent
    let p := { p with report }
    match (v.rules.versionFor? parent.artifact).or target with
    | none => return p
    | some new =>
      if new = parent.version then return p
      else
        return p.edit (p.reactor.setParentVersion v.module new) v.module v.artifact .parentVersion
          (some parent.version) (some new)

def injection? (e : OverrideEntry) : Option Dependency :=
  (Text.nonBlank? e.version).map fun version =>
    { group := e.artifact.group
      name := e.artifact.name
      version := some version
      kind := e.target.kind
      classifier := e.target.classifier }

/-- Whether two dependencies differ at most in version and scope. -/
def sameDependency (d e : Dependency) : Bool :=
  d.group == e.group && d.name == e.name && d.kind == e.kind && d.classifier == e.classifier

/-- The managed dependencies that the overrides add to a root which manages the given artifacts, in
the order of the overrides; of several that differ only in version the first one. -/
def injections (overrides : OverrideMap) (managed : KeySet Artifact) : List Dependency :=
  let all := (overrides.entries.filter fun e => !managed.contains e.artifact).filterMap injection?
  all.foldl (fun ds d => if ds.any (sameDependency · d) then ds else ds ++ [d]) []

/-- Adds the overrides that match no managed dependency in front of those of a root. -/
def inject (v : Visit) (managed : KeySet Artifact) (p : Progress) : Progress :=
  let added := injections v.overrides managed
  let reactor := p.reactor.modifyBody v.module .main fun b =>
    { b with managedDependencies := added ++ b.managedDependencies }
  added.foldl
    (fun p d =>
      p.edit reactor v.module v.artifact (.injectedManaged { group := d.group, name := d.name })
        none d.version)
    p

/-- The interpolated identities of the managed dependencies in the main body of a module. -/
def managedArtifacts (r : Reactor) (id : Nat) : KeySet Artifact :=
  let managed := (r.module id).declarations.filter fun d =>
    d.address.scope = .main ∧ d.address.collection = .managedDependencies
  .ofList (managed.map (r.declaredArtifact id))

/-- Whether overrides are added to roots: only if it is set and there are any from a bill of
materials. -/
def injects (a : DependencyAlignment) : Bool :=
  a.config.overrideTransitive && !a.sources.bom.isEmpty

def alignModule (a : DependencyAlignment) (merged : OverrideMap) (s : State) (id : Nat) :
    Except AlignError State := do
  let r := s.progress.reactor
  let artifact := r.artifact id
  let rules := a.rules.inModule artifact
  let v : Visit := { module := id, artifact, overrides := rules.applyExclusions merged, rules }
  let progress ← if r.isRoot id then a.alignParent v s.progress else pure s.progress
  let managed := managedArtifacts progress.reactor id
  let s ← (progress.reactor.module id).declarations.foldlM (a.alignDeclaration v)
    { s with progress }
  if a.injects && r.isRoot id then return { s with progress := inject v managed s.progress }
  else return s

def warnIgnored (a : DependencyAlignment) (p : Progress) : Progress :=
  if a.config.overrideTransitive && !a.injects then
    p.warn .ignoredOption none
      "ignoring alignment.override_transitive: no BOM overrides were supplied"
  else p

/-- Validates the demands on properties and writes them. -/
def settle (a : DependencyAlignment) (s : State) : Except AlignError Progress :=
  (s.ledger.validate s.progress.reactor a.config.propertyValidation s.progress.report).map
    fun (_, report) => s.ledger.flush { s.progress with report }

/-- The overrides of the pass, without those for modules of the reactor. -/
def overridesFor (a : DependencyAlignment) (r : Reactor) : OverrideMap :=
  (a.sources.merge a.config.precedence).without r.artifacts

def run (a : DependencyAlignment) (p : Progress) : Except AlignError Progress := do
  let p :=
    match a.sources.mergeWarning? a.config.precedence with
    | some message => p.warn .noOverrides none message
    | none => p
  let merged := a.overridesFor p.reactor
  if merged.isEmpty && a.rules.isEmpty then return p
  else
    let s ← p.reactor.order.foldlM (a.alignModule merged) { progress := a.warnIgnored p }
    a.settle s

end DependencyAlignment

end BuildAlign
