import BuildAlign.Alignment.Dependencies

/-!
The alignment as a sequence of phases. A run warns of missing overrides, visits all modules, and
settles the demands; a visit aligns the declared parent of a root and then everything else in the
module. What holds of a run or of a visit is put together from what holds of the phases.
-/

namespace BuildAlign.DependencyAlignment

variable (a : DependencyAlignment)

/-- The progress after the warning that there are no overrides, if there is one. -/
def begun (p : Progress) : Progress :=
  match a.sources.mergeWarning? a.config.precedence with
  | some message => p.warn .noOverrides none message
  | none => p

/-- The state after all modules are visited, before the demands are written. -/
def gather (p : Progress) : Except AlignError State :=
  p.reactor.order.foldlM (a.alignModule (a.overridesFor p.reactor)) { progress := a.warnIgnored p }

theorem reactor_begun (p : Progress) : (a.begun p).reactor = p.reactor := by
  rw [begun]
  split <;> rfl

theorem reactor_warnIgnored (p : Progress) : (a.warnIgnored p).reactor = p.reactor := by
  rw [warnIgnored]
  split <;> rfl

/-- A run without overrides and rules ends with the warning. Any other one visits all modules and
then settles the demands. -/
theorem run_eq (p : Progress) :
    a.run p =
      if (a.overridesFor p.reactor).isEmpty && a.rules.isEmpty then .ok (a.begun p)
      else a.gather (a.begun p) >>= a.settle := by
  rw [run, ← a.reactor_begun p]
  rfl

/-- The visit of a module under merged overrides. -/
def visitUnder (merged : OverrideMap) (id : Nat) (artifact : Artifact) : Visit where
  module := id
  artifact
  overrides := (a.rules.inModule artifact).applyExclusions merged
  rules := a.rules.inModule artifact

/-- The rest of a visit once the declared parent is aligned. -/
def alignBody (v : Visit) (isRoot : Bool) (s : State) (p : Progress) : Except AlignError State :=
  (p.reactor.module v.module).declarations.foldlM (a.alignDeclaration v) { s with progress := p } >>=
    fun s' =>
      if a.injects && isRoot then
        pure { s' with
          progress := inject v (managedArtifacts p.reactor v.module) s'.progress }
      else pure s'

/-- A visit in two parts, the declared parent and the rest. The identity of the module is taken
before the parent moves. -/
theorem alignModule_eq (merged : OverrideMap) (s : State) (id : Nat) :
    a.alignModule merged s id =
      (if s.progress.reactor.isRoot id then
          a.alignParent (a.visitUnder merged id (s.progress.reactor.artifact id)) s.progress
        else pure s.progress) >>=
      a.alignBody (a.visitUnder merged id (s.progress.reactor.artifact id))
        (s.progress.reactor.isRoot id) s := by
  rw [alignModule]
  dsimp only
  split <;> rfl

end BuildAlign.DependencyAlignment
