import BuildAlign.Module.Declaration

/-!
The report of a pass: every change that was made to the reactor, every problem that did not stop the
pass, and how often each outcome of a matched declaration came up.
-/

namespace BuildAlign

/-- Why a matched declaration was left alone. -/
inductive SkipReason where
  | emptyOverride
  | unmanaged
  | selfReference
  | strictViolation
  | alreadyAligned
  deriving DecidableEq, Repr

/-- How the evaluation of an override against a declaration ended. -/
inductive Outcome where
  | skipped (reason : SkipReason)
  | deferredToExplicit
  | propertyUpdated
  | propertyRejected
  | literalUpdated
  deriving DecidableEq, Repr

namespace Outcome

def label : Outcome → String
  | skipped .emptyOverride => "skipped:empty-override"
  | skipped .unmanaged => "skipped:unmanaged"
  | skipped .selfReference => "skipped:self-reference"
  | skipped .strictViolation => "skipped:strict-violation"
  | skipped .alreadyAligned => "skipped:already-aligned"
  | deferredToExplicit => "deferred-to-explicit"
  | propertyUpdated => "property-updated"
  | propertyRejected => "property-rejected"
  | literalUpdated => "literal-updated"

def all : List Outcome :=
  [skipped .emptyOverride, skipped .unmanaged, skipped .selfReference, skipped .strictViolation,
    skipped .alreadyAligned, deferredToExplicit, propertyUpdated, propertyRejected, literalUpdated]

end Outcome

inductive ChangeTarget where
  | moduleVersion
  | parentVersion
  | declaration (address : Address) (artifact : Artifact)
  | property (name : String)
  | injectedManaged (artifact : Artifact)
  | removedPlugin (artifact : Artifact)
  | removedProfile (id : String)
  deriving DecidableEq, Repr

def ChangeTarget.text : ChangeTarget → String
  | moduleVersion => "version"
  | parentVersion => "parent version"
  | declaration address artifact => artifact.text ++ " at " ++ address.text
  | property name => "property " ++ name
  | injectedManaged artifact => "injected managed dependency " ++ artifact.text
  | removedPlugin artifact => "removed plugin " ++ artifact.text
  | removedProfile id => "removed profile " ++ id

/-- One change of the reactor: in which module, what, and its text before and after. -/
structure Change where
  module : Nat
  artifact : Artifact
  target : ChangeTarget
  old : Option String
  new : Option String
  deriving DecidableEq, Repr

def Change.text (c : Change) : String :=
  c.artifact.text ++ ": " ++ c.target.text
    ++ match c.old, c.new with
      | some old, some new => ": " ++ old ++ " -> " ++ new
      | none, some new => ": " ++ new
      | some old, none => ": was " ++ old
      | none, none => ""

inductive WarningKind where
  | strictViolation
  | propertyClash
  | propertyValidation
  | unresolvedProperty
  | emptyOverride
  | noOverrides
  | ignoredOption
  deriving DecidableEq, Repr

namespace WarningKind

def word : WarningKind → String
  | strictViolation => "strict-violation"
  | propertyClash => "property-clash"
  | propertyValidation => "property-validation"
  | unresolvedProperty => "unresolved-property"
  | emptyOverride => "empty-override"
  | noOverrides => "no-overrides"
  | ignoredOption => "ignored-option"

def all : List WarningKind :=
  [strictViolation, propertyClash, propertyValidation, unresolvedProperty, emptyOverride,
    noOverrides, ignoredOption]

end WarningKind

structure Warning where
  kind : WarningKind
  module : Option Artifact
  message : String
  deriving DecidableEq, Repr

def Warning.text (w : Warning) : String :=
  "[" ++ w.kind.word ++ "] "
    ++ (match w.module with
      | some m => m.text ++ ": "
      | none => "")
    ++ w.message

/-- Everything a pass did, in order, and the tally of its outcomes. -/
structure Report where
  changes : List Change := []
  warnings : List Warning := []
  outcomes : Table String Nat := ∅
  deriving DecidableEq, Repr

namespace Report

def change (r : Report) (module : Nat) (artifact : Artifact) (target : ChangeTarget)
    (old new : Option String) : Report :=
  { r with changes := r.changes ++ [{ module, artifact, target, old, new }] }

def warn (r : Report) (kind : WarningKind) (module : Option Artifact) (message : String) : Report :=
  { r with warnings := r.warnings ++ [{ kind, module, message }] }

def count (r : Report) (o : Outcome) : Nat :=
  r.outcomes.getD o.label 0

/-- Counts an outcome once more. -/
def tally (r : Report) (o : Outcome) : Report :=
  { r with outcomes := r.outcomes.insert o.label (r.count o + 1) }

def changedModules (r : Report) : KeySet Nat :=
  .ofList (r.changes.map Change.module)

def changesOf (r : Report) (module : Nat) : List Change :=
  r.changes.filter (·.module == module)

def warned (r : Report) (kind : WarningKind) : Bool :=
  r.warnings.any (·.kind == kind)

def itemLine (s : String) : String :=
  "  " ++ s ++ "\n"

/-- The report as text: a heading and the changes, then a heading and the warnings if there are
any. -/
def text (r : Report) : String :=
  toString r.changes.length ++ " change(s) in " ++ toString r.changedModules.size
    ++ " module(s)\n" ++ String.join (r.changes.map fun c => itemLine c.text)
    ++ if r.warnings.isEmpty then ""
      else toString r.warnings.length ++ " warning(s)\n"
        ++ String.join (r.warnings.map fun w => itemLine w.text)

end Report

end BuildAlign
