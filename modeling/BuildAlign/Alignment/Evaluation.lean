import BuildAlign.Alignment.PropertyLedger
import BuildAlign.Alignment.Strict

/-!
What happens to one declaration that overrides match. The evaluation only reads the reactor: it asks
for the version text to be replaced, or demands a value of the property that the text refers to, or
leaves the declaration alone and says why.
-/

namespace BuildAlign

/-- A declaration in its module, with the interpolated identities of both. -/
structure Site where
  module : Nat
  moduleArtifact : Artifact
  declaration : Declaration
  artifact : Artifact
  deriving DecidableEq, Repr

namespace Site

def of (r : Reactor) (module : Nat) (moduleArtifact : Artifact) (d : Declaration) : Site :=
  { module, moduleArtifact, declaration := d, artifact := r.declaredArtifact module d }

def kind (s : Site) : ReferenceKind :=
  if s.declaration.isPlugin then .plugin else .dependency

def version? (s : Site) : Option String :=
  s.declaration.version.filter fun v => !Text.isBlank v

end Site

/-- What is to be done with a declaration. -/
inductive Step where
  /-- Nothing is to be written. -/
  | done (o : Outcome)
  /-- The version text is to be replaced. -/
  | replace (version : String)
  deriving DecidableEq, Repr

def Step.outcome : Step → Outcome
  | done o => o
  | replace _ => .literalUpdated

structure Evaluation where
  ledger : PropertyLedger := ∅
  report : Report := {}
  deriving DecidableEq, Repr

structure Evaluator where
  strict : StrictPolicy
  failOnPropertyClash : Bool
  deriving DecidableEq, Repr

/-- A step with the demands and the report after it. -/
abbrev Evaluated := Except AlignError (Step × Evaluation)

/-- The trimmed versions of override entries, without the blank ones. -/
def candidateVersions (entries : List OverrideEntry) : List String :=
  entries.filterMap fun e => Text.nonBlank? e.version

/-- Puts the tail of the target, from the label on, in the place of the tail of the old text. -/
def spliceAt? (label old target : List Char) : Option (List Char) := do
  let (head, _) ← Text.cutFirst? label old
  let (_, tail) ← Text.cutFirst? label target
  some (head ++ label ++ tail)

namespace Evaluator

/-- The text that a version text is replaced by. A text that mixes references with the rebuild
label keeps what stands before the label, if the target has the label too. -/
def literalText (e : Evaluator) (old target : String) : String :=
  if Template.hasReference old then
    ((e.strict.label.bind fun label => spliceAt? label.toList old.toList target.toList).map
      String.ofList).getD target
  else target

/-- The replacement of a version text, unless it is aligned already. -/
def literal (e : Evaluator) (old target : String) : Step :=
  let new := e.literalText old target
  if new = old then .done (.skipped .alreadyAligned) else .replace new

/-- Demands a value of a property. A conflict with an explicit demand is settled silently unless the
new demand is explicit too; any other conflict is a clash. -/
def demand (e : Evaluator) (r : Reactor) (s : Evaluation) (site : Site) (name target : String)
    (explicit : Bool) : Evaluated :=
  let (outcome, ledger) :=
    s.ledger.record r
      { module := site.module, name, new := target, origin := site.artifact, explicit }
  if outcome.isAccepted then .ok (.done .propertyUpdated, { s with ledger })
  else
    let rejected : Step := .done .propertyRejected
    let standing := s.ledger.mapping? r site.module name
    let existing := (standing.map PropertyMapping.new).getD ""
    if standing.any PropertyMapping.explicit && !explicit then .ok (rejected, s)
    else if e.failOnPropertyClash then
      .error (.propertyClash site.moduleArtifact name existing target site.artifact)
    else
      .ok (rejected, { s with
        report := s.report.warn .propertyClash (some site.moduleArtifact)
          (Template.referenceText name ++ " is already mapped to " ++ existing ++ "; rejecting "
            ++ target ++ " demanded by " ++ site.artifact.text) })

/-- Moves a version text to the target: through the property that it is a reference to, or by
replacing it. -/
def move (e : Evaluator) (r : Reactor) (s : Evaluation) (site : Site) (old target : String)
    (explicit : Bool) : Evaluated :=
  match propertyOf? old with
  | some name => e.demand r s site name target explicit
  | none => .ok (e.literal old target, s)

/-- Whether a version text is the version of the module itself, or refers to it. -/
def isSelfReference (r : Reactor) (module : Nat) (old : String) : Bool :=
  (Template.hasReference old && (r.module module).writtenVersion == some old)
    || r.isOwnVersion module old

/-- Evaluates the override entries for one declaration. The first entry that the strict check lets
pass decides. -/
def evaluate (e : Evaluator) (r : Reactor) (s : Evaluation) (site : Site)
    (entries : List OverrideEntry) (rules : ExplicitRules) : Evaluated :=
  match candidateVersions entries with
  | [] =>
    .ok (.done (.skipped .emptyOverride), { s with
      report := s.report.warn .emptyOverride (some site.moduleArtifact)
        ("override for " ++ site.artifact.text ++ " has no version; skipping") })
  | first :: others =>
    match site.version? with
    | none => .ok (.done (.skipped .unmanaged), s)
    | some old =>
      if isSelfReference r site.module old then .ok (.done (.skipped .selfReference), s)
      else if (rules.versionFor? site.artifact).isSome then .ok (.done .deferredToExplicit, s)
      else
        let resolved := r.resolve site.module old
        match e.strict.choose? resolved (first :: others) with
        | some target => e.move r s site old target false
        | none =>
          (e.strict.violation s.report site.moduleArtifact site.artifact site.kind resolved
            first).map
          fun report => (.done (.skipped .strictViolation), { s with report })

/-- Applies the version of an explicit rule to one declaration, without the strict check. -/
def evaluateExplicit (e : Evaluator) (r : Reactor) (s : Evaluation) (site : Site)
    (version : String) : Evaluated :=
  match Text.nonBlank? version with
  | none => .ok (.done (.skipped .emptyOverride), s)
  | some target =>
    match site.version? with
    | none => .ok (.done (.skipped .unmanaged), s)
    | some old => e.move r s site old target true

end Evaluator

end BuildAlign
