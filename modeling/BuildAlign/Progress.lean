import BuildAlign.Reactor.Interpolation
import BuildAlign.Report

/-!
What a stage of a pass hands on: the changed reactor, the report so far, and how many edits the
stage made.
-/

namespace BuildAlign

/-- A reactor under change, with the report on the changes and the number of edits. -/
structure Progress where
  reactor : Reactor
  report : Report
  edits : Nat := 0
  deriving DecidableEq, Repr

namespace Progress

/-- Adds a warning about a module, or about none. -/
def warn (p : Progress) (kind : WarningKind) (module : Option Artifact) (message : String) :
    Progress :=
  { p with report := p.report.warn kind module message }

def edit (p : Progress) (reactor : Reactor) (module : Nat) (artifact : Artifact)
    (target : ChangeTarget) (old new : Option String) : Progress :=
  { reactor, report := p.report.change module artifact target old new, edits := p.edits + 1 }

/-- The same reactor and report at the start of another stage. -/
def restart (p : Progress) : Progress :=
  { p with edits := 0 }

end Progress

end BuildAlign
