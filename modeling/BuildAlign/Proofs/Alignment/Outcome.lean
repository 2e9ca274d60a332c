import BuildAlign.Proofs.Alignment.Effective
import BuildAlign.Proofs.Alignment.Walk

/-!
The reactor after a run, module by module. A module keeps its coordinate, its declarations are those
of before as they are realigned, behind the added ones, and its properties are those of before with
the values of the ledger. Without explicit rules everything is moved by overrides.
-/

namespace BuildAlign

namespace PropertyLedger

variable {r r' : Reactor} {owner : PropertyOwner} {scope : Option Scope}

/-- Visits keep the frame, so what could be written before them can be written after them. -/
theorem Writable.sameFrame (h : Writable r owner scope) (hframe : r.SameFrame r') :
    Writable r' owner scope := by
  constructor
  · exact hframe.size ▸ h.inside
  · rw [(hframe.modules owner.module).properties]
    exact h.scope_found
  · intro hscope
    rw [hframe.sameLinks.parent]
    exact h.undeclared hscope

theorem Fits.sameFrame {ledger : PropertyLedger} (h : ledger.Fits r) (hframe : r.SameFrame r') :
    ledger.Fits r' where
  keyed := h.keyed
  writable := fun owner scope new hw => (h.writable owner scope new hw).sameFrame hframe

end PropertyLedger

namespace DependencyAlignment.Ran

variable {a : DependencyAlignment} {p p' : Progress}

/-- The properties are written by a ledger into a reactor that still has the frame of the first. -/
theorem exists_ledger (h : Ran a p p') : ∃ (ledger : PropertyLedger) (q : Progress),
    ledger.Traced p.reactor (Demanded a p.reactor) ∧ p.reactor.SameFrame q.reactor ∧
      p'.reactor = (ledger.flush q).reactor := by
  obtain ⟨s, q, hwalk, hq, hp'⟩ := h.walked
  exact ⟨s.ledger, q, hwalk.ledger, hq ▸ hwalk.frame, hp'⟩

theorem exists_trace (h : Ran a p p') (id : Nat) :
    ∃ m added, ModuleTrace a p.reactor id m ∧ (p.reactor.module id).SameCoordinate m ∧
      (m.manage added).SameDeclared (p'.reactor.module id) := by
  obtain ⟨s, q, hwalk, hq, hp'⟩ := h.walked
  obtain ⟨m, added, htrace, hm⟩ := hwalk.traces id
  have hframe := (hwalk.frame.modules id).toSameCoordinate
  rw [hm] at hframe
  have hflush := s.ledger.sameDeclared_flush q id
  rw [hq, hm, ← hp'] at hflush
  exact ⟨m, added, htrace, ⟨hframe.group, hframe.name, hframe.version, hframe.parent⟩, hflush⟩

theorem sameCoordinate (h : Ran a p p') (id : Nat) :
    (p.reactor.module id).SameCoordinate (p'.reactor.module id) := by
  obtain ⟨m, added, _, hcoordinate, hdeclared⟩ := h.exists_trace id
  constructor
  · exact hdeclared.group.trans hcoordinate.group
  · exact hdeclared.name.trans hcoordinate.name
  · exact hdeclared.version.trans hcoordinate.version
  · exact (congrArg _ hdeclared.parent).trans hcoordinate.parent

theorem parent (h : Ran a p p') (id : Nat) :
    ParentRealigned a p.reactor id (p'.reactor.module id).parent := by
  obtain ⟨m, added, htrace, _, hdeclared⟩ := h.exists_trace id
  exact hdeclared.parent ▸ htrace.parent

/-- The declarations after a run: those of before in their order, realigned, behind the added ones.
-/
theorem declarations (h : Ran a p p') (id : Nat) : ∃ f added,
    (p'.reactor.module id).declarations =
      Module.listDependencies .main .managedDependencies added ++
        ((p.reactor.module id).declarations.map f).map (Declaration.behind added.length) ∧
    ∀ d ∈ (p.reactor.module id).declarations, Realigned a p.reactor id d (f d) := by
  obtain ⟨m, added, htrace, _, hdeclared⟩ := h.exists_trace id
  obtain ⟨f, hf, hrealigned⟩ := htrace.declarations
  refine ⟨f, added, ?_, hrealigned⟩
  rw [hdeclared.declarations, Module.declarations_manage, hf]

end DependencyAlignment.Ran

/-! ## Without explicit rules -/

namespace DependencyAlignment

variable {a : DependencyAlignment} {r : Reactor}

theorem versionFor?_visit (hrules : a.rules.isEmpty = true) (id : Nat) (artifact : Artifact) :
    (a.visit r id).rules.versionFor? artifact = none := by
  have hnil : a.rules.rules = [] := by simpa [ExplicitRules.isEmpty] using hrules
  simp [visit, ExplicitRules.inModule, ExplicitRules.versionFor?, ExplicitRules.resolve?, hnil]

/-- Only overrides move a declaration. -/
theorem Moves.matched (hrules : a.rules.isEmpty = true) {id : Nat} {d : Declaration}
    {old target : String} {explicit : Bool} (h : a.Moves r id d old target explicit) :
    explicit = false ∧ ∃ r', r.SameFrame r' ∧
      a.evaluator.Matched r' (Site.of r' id (r.artifact id) d)
        ((a.visit r id).overrides.entriesOf (r'.declaredArtifact id d)) (a.visit r id).rules
        old target := by
  obtain ⟨r', hframe, _, hcause⟩ := h
  cases hcause with
  | matched hmatched => exact ⟨rfl, r', hframe, hmatched⟩
  | forced hforced _ =>
    rw [versionFor?_visit hrules] at hforced
    exact absurd hforced nofun

end DependencyAlignment

end BuildAlign
