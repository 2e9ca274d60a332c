import BuildAlign.Override.Error
import BuildAlign.Override.Map
import BuildAlign.Text.Cut

/-!
Explicit rules. A rule is for one artifact or for all artifacts of a group, and may hold in one
module only. It forces a version, takes the version from a named extra source, or excludes the
artifact from alignment. The most specific rule decides: a rule for the artifact comes before one
for its group, then a rule for the module before one for all modules, then the order of
configuration.
-/

namespace BuildAlign

structure RuleConfig where
  target : String
  module : Option String := none
  version : String
  deriving DecidableEq, Repr

inductive Rule.Target where
  | artifact (a : Artifact)
  | group (name : String)
  deriving DecidableEq, Repr

/-- What a rule says about the artifacts it is for. -/
inductive Rule.Verdict where
  | exclude
  | force (version : String)
  | fromBom (name : String) (entries : OverrideMap)
  deriving DecidableEq, Repr

/-- A rule: what it is for, where it holds, and what it says. -/
structure Rule where
  target : Rule.Target
  /-- The one module in which the rule holds, if it is not for all. -/
  module : Option Artifact
  verdict : Rule.Verdict
  deriving DecidableEq, Repr

/-- What the rules say about an artifact in a module. -/
inductive Resolution where
  | exclude
  | version (v : String)
  deriving DecidableEq, Repr

namespace Rule

def Target.covers : Target → Artifact → Bool
  | artifact a, b => a == b
  | group name, b => name == b.group

/-- How specific a rule is; a lower rank decides before a higher one. -/
def rank (rule : Rule) : Nat :=
  match rule.target, rule.module with
  | .artifact _, some _ => 0
  | .artifact _, none => 1
  | .group _, some _ => 2
  | .group _, none => 3

def holdsIn (rule : Rule) (module : Artifact) : Bool :=
  rule.module.all (· == module)

/-- What a rule says about an artifact it covers. A rule that takes its version from a source
without an entry for the artifact says nothing. -/
def answer? (rule : Rule) (a : Artifact) : Option Resolution :=
  match rule.verdict with
  | .exclude => some .exclude
  | .force v => some (.version v)
  | .fromBom _ entries => (entries.first? a).map fun e => .version e.version

/-- The wildcard that stands for every artifact of a group, or for every module. -/
def wildcard : String :=
  "*"

/-- The text in front of the name of an extra source. -/
def bomMark : List Char :=
  ['b', 'o', 'm', ':']

/-- Reads a target: `group:*` or `group:name`. -/
def Target.parse (text : String) : Except OverrideError Target :=
  let parts := (Text.cutFirst? [':'] (Text.trim text.toList)).map fun (front, rest) =>
    (String.ofList front, String.ofList rest)
  match parts with
  | some (front, rest) =>
    if rest = wildcard ∧ front ≠ "" ∧ front ≠ wildcard then .ok (.group front)
    else if front = wildcard then .error { value := text, fault := .wildcardGroup }
    else named
  | none => named
where
  named : Except OverrideError Target :=
    ((Artifact.parse text).map .artifact).mapError fun e => { value := text, fault := .identity e }

/-- Reads the module of a rule; blank text and the wildcard stand for all modules. -/
def parseModule (text : Option String) : Except OverrideError (Option Artifact) :=
  match text.map Text.trimmed with
  | none => .ok none
  | some m =>
    if m = "" ∨ m = wildcard then .ok none
    else ((Artifact.parse m).map some).mapError fun e => { value := m, fault := .identity e }

/-- Reads what a rule says: nothing excludes, `bom:<name>` refers to an extra source. -/
def Verdict.parse (extra : Table String OverrideMap) (text : String) :
    Except OverrideError Verdict :=
  let raw := Text.trimmed text
  if raw = "" then .ok .exclude
  else
    match Text.after? bomMark raw.toList with
    | none => .ok (.force raw)
    | some rest =>
      let name := String.ofList rest
      match extra.get? name with
      | some entries => .ok (.fromBom name entries)
      | none => .error { value := raw, fault := .unknownBom name }

/-- Reads one rule: its target, then its module, then its version. -/
def parse (extra : Table String OverrideMap) (c : RuleConfig) : Except OverrideError Rule := do
  let target ← Target.parse c.target
  let module ← parseModule c.module
  let verdict ← Verdict.parse extra c.version
  return { target, module, verdict }

def byRank (rules : List Rule) : List Rule :=
  (List.range 4).flatMap fun n => rules.filter (·.rank == n)

end Rule

/-- The rules of a pass, the most specific ones first. -/
structure ExplicitRules where
  rules : List Rule := []
  deriving DecidableEq, Repr

namespace ExplicitRules

/-- Reads the configured rules; the first faulty one is the error. -/
def parse (configs : List RuleConfig) (extra : Table String OverrideMap) :
    Except OverrideError ExplicitRules :=
  (configs.mapM (Rule.parse extra)).map fun rules => { rules := Rule.byRank rules }

def size (x : ExplicitRules) : Nat :=
  x.rules.length

def isEmpty (x : ExplicitRules) : Bool :=
  x.rules.isEmpty

def inModule (x : ExplicitRules) (module : Artifact) : ExplicitRules :=
  { rules := x.rules.filter (·.holdsIn module) }

/-- What the first rule with an answer says about an artifact. -/
def resolve? (x : ExplicitRules) (a : Artifact) : Option Resolution :=
  (x.rules.filter (·.target.covers a)).findSome? (·.answer? a)

def versionFor? (x : ExplicitRules) (a : Artifact) : Option String :=
  match x.resolve? a with
  | some (.version v) => some v
  | _ => none

def excludes (x : ExplicitRules) (a : Artifact) : Bool :=
  x.resolve? a == some .exclude

def applyExclusions (x : ExplicitRules) (m : OverrideMap) : OverrideMap :=
  m.retain fun e => !x.excludes e.artifact

end ExplicitRules

end BuildAlign
