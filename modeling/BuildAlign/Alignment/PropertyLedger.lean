import BuildAlign.Alignment.Error
import BuildAlign.Config.Basic
import BuildAlign.Progress
import BuildAlign.Reactor.Property

/-!
The ledger of demanded property values. Many declarations may take their version from one property,
so a demand on it is recorded and compared with later ones, and the reactor is written once, when
all demands are known. The first demand on a property stands, except that the first explicit demand
replaces an automatic one.
-/

namespace BuildAlign

/-- The module that a property is written to, and the name of the property. -/
structure PropertyOwner where
  module : Nat
  name : String
  deriving DecidableEq, Repr

namespace PropertyOwner

def order : PropertyOwner → PropertyOwner → Ordering :=
  compareLex (compareOn PropertyOwner.module) (compareOn PropertyOwner.name)

instance : Std.TransCmp order :=
  inferInstanceAs (Std.TransCmp (compareLex (compareOn PropertyOwner.module) _))

instance : Ord PropertyOwner := ⟨order⟩

instance : Key PropertyOwner where
  trans := inferInstanceAs (Std.TransCmp order)
  lawful :=
    { compare_self := @Std.ReflCmp.compare_self _ order _
      eq_of_compare := fun {a b} h => by
        have h' : order a b = .eq := h
        simp only [order, compareLex_eq_eq, compareOn, Std.LawfulEqCmp.compare_eq_iff_eq] at h'
        cases a; cases b
        simp_all }

end PropertyOwner

/-- What a property is going to be set to, and for whom. -/
structure PropertyMapping where
  module : Nat
  /-- The scope that declares the property; none if no module in sight declares it. -/
  scope : Option Scope
  name : String
  /-- The resolved value before the pass. -/
  old : String
  new : String
  /-- The artifact whose demand was accepted. -/
  origin : Artifact
  explicit : Bool
  /-- The artifacts that demanded exactly this value. -/
  demandedBy : KeySet Artifact
  deriving DecidableEq, Repr

/-- The property that a mapping is written to. -/
def PropertyMapping.owner (m : PropertyMapping) : PropertyOwner :=
  { module := m.module, name := m.name }

inductive DemandOutcome where
  | acceptedNew
  | acceptedIdentical
  | rejectedConflict
  | overriddenByExplicit
  deriving DecidableEq, Repr

namespace DemandOutcome

def word : DemandOutcome → String
  | acceptedNew => "accepted-new"
  | acceptedIdentical => "accepted-identical"
  | rejectedConflict => "rejected-conflict"
  | overriddenByExplicit => "overridden-by-explicit"

/-- Whether the property is going to have the demanded value. -/
def isAccepted (o : DemandOutcome) : Bool :=
  o != rejectedConflict

end DemandOutcome

/-- A demand by a declaration of a module that a property of the given name has a value. -/
structure Demand where
  module : Nat
  name : String
  new : String
  origin : Artifact
  explicit : Bool
  deriving DecidableEq, Repr

/-- The mapping of every property on which there is a demand. -/
abbrev PropertyLedger := Table PropertyOwner PropertyMapping

namespace PropertyLedger

/-- Where a property lives that a module refers to. A property that no module in sight declares goes
to the root above the module. -/
def ownerOf (r : Reactor) (module : Nat) (name : String) : PropertyOwner × Option Scope :=
  match r.locate? module name with
  | some place => ({ module := place.module, name := place.name }, some place.scope)
  | none => ({ module := r.root module, name }, none)

/-- The mapping of the property that a module refers to by a name. -/
def mapping? (ledger : PropertyLedger) (r : Reactor) (module : Nat) (name : String) :
    Option PropertyMapping :=
  ledger.get? (ownerOf r module name).1

def record (ledger : PropertyLedger) (r : Reactor) (d : Demand) : DemandOutcome × PropertyLedger :=
  let (owner, scope) := ownerOf r d.module d.name
  match ledger.get? owner with
  | none =>
    (.acceptedNew, ledger.insert owner
      { module := owner.module
        scope
        name := owner.name
        old := r.resolve d.module (Template.referenceText d.name)
        new := d.new
        origin := d.origin
        explicit := d.explicit
        demandedBy := .ofList [d.origin] })
  | some m =>
    if m.new = d.new then
      (.acceptedIdentical, ledger.insert owner { m with demandedBy := m.demandedBy.add d.origin })
    else if d.explicit ∧ ¬ m.explicit then
      (.overriddenByExplicit, ledger.insert owner
        { m with
          new := d.new
          origin := d.origin
          explicit := true
          demandedBy := .ofList [d.origin] })
    else (.rejectedConflict, ledger)

/-! ## Validation -/

/-- A declaration that follows a property to a value which its artifact did not demand. -/
structure Mismatch where
  module : Nat
  artifact : Artifact
  property : String
  mapping : PropertyMapping
  deriving DecidableEq, Repr

def mismatch? (ledger : PropertyLedger) (r : Reactor) (id : Nat) (d : Declaration) :
    Option Mismatch := do
  let property ← d.version.bind propertyOf?
  let mapping ← ledger.mapping? r id property
  let artifact := r.declaredArtifact id d
  if mapping.demandedBy.contains artifact then none
  else some { module := id, artifact, property, mapping }

def mismatches (ledger : PropertyLedger) (r : Reactor) : List Mismatch :=
  r.order.flatMap fun id => (r.module id).declarations.filterMap (ledger.mismatch? r id)

def warnMismatch (r : Reactor) (report : Report) (m : Mismatch) : Report :=
  report.warn .propertyValidation (some (r.artifact m.module))
    (m.artifact.text ++ " uses " ++ Template.referenceText m.property ++ ", updated to "
      ++ m.mapping.new ++ " for " ++ m.mapping.origin.text
      ++ ", but was not aligned to that version")

/-- Checks that every declaration that follows a property in the ledger has demanded its value.
Gives the number of mismatches and the report; on the fatal level the first mismatch is the error.
-/
def validate (ledger : PropertyLedger) (r : Reactor) (level : ValidationLevel) (report : Report) :
    Except AlignError (Nat × Report) :=
  match level with
  | .off => .ok (0, report)
  | .warn =>
    let all := ledger.mismatches r
    .ok (all.length, all.foldl (warnMismatch r) report)
  | .fail =>
    match ledger.mismatches r with
    | [] => .ok (0, report)
    | m :: _ =>
      .error (.propertyValidation (r.artifact m.module) m.property m.artifact m.mapping.new)

/-! ## Writing -/

/-- Writes one mapping. A property that no module declares is warned of and goes to the main body of
its module. -/
def write (p : Progress) (m : PropertyMapping) : Progress :=
  let artifact := p.reactor.artifact m.module
  let p :=
    if m.scope.isSome then p
    else
      p.warn .unresolvedProperty (some artifact)
        ("property " ++ Template.referenceText m.name
          ++ " is not declared in the inheritance chain; injecting " ++ m.new
          ++ " at the inheritance root")
  let scope := m.scope.getD .main
  let previous := (p.reactor.module m.module).property? scope m.name
  if previous = some m.new then p
  else
    p.edit (p.reactor.setProperty m.module scope m.name m.new) m.module artifact
      (.property m.name) previous (some m.new)

def flush (ledger : PropertyLedger) (p : Progress) : Progress :=
  ledger.values.foldl write p

end PropertyLedger

end BuildAlign
