import BuildAlign.Proofs.Pass.Completeness

/-!
A pass keeps the tree of the modules, whatever its stages are and however often they run. It follows
from the account of the pass: edits change versions, properties, and what the bodies and profiles
hold, and none of them touches a node of the tree.
-/

namespace BuildAlign

/-- After a pass there are as many modules as before, each with its identity, packaging and parent.
They are accepted as a reactor again, with the same walks to the root and the same order of visits.
-/
theorem tree_kept {c : Config} {inputs : PassInputs} {r : Reactor} {p : Progress}
    (h : align c inputs r = .ok p) :
    p.reactor.size = r.size ∧
      (∀ id, (r.module id).SameNode (p.reactor.module id)) ∧
      Reactor.ofModules p.reactor.modules = .ok p.reactor ∧
      (∀ id, p.reactor.chain id = r.chain id ∧ p.reactor.root id = r.root id) ∧
      p.reactor.order = r.order := by
  have haccounts : Accounts p.report.changes r p.reactor := by
    have := align_accounts c inputs r
    rwa [h] at this
  have htree : r.SameTree p.reactor := haccounts.toSameTree
  have hlinks : r.SameLinks p.reactor := htree.sameLinks
  exact ⟨htree.size, htree.node, p.reactor.ofModules_modules,
    fun id => ⟨hlinks.chain id, hlinks.root id⟩, hlinks.order⟩

/-- Every stage, with something to do for each of them; the versions come last. -/
def busyPass : Config where
  versioning := { suffix := some "redhat-1" }
  alignment := { precedence := .bom }
  removal := { plugins := ["org.p:old"], profiles := ["dev"] }
  stages := [.dependencies, .propertyInjection, .pluginRemoval, .profileRemoval,
    .enforceProjectVersion, .versioning]

def busyInputs : PassInputs where
  sources :=
    { bom := .ofCoordinates .bom [({ group := "org.x", name := "lib" } : Artifact).at "2.0"] }
  properties := Table.ofList [("revision", "7")]

/-- A module in front of its parent, which aggregates it. -/
def childFirst : Reactor where
  modules := [
    { name := "web", packaging := "war"
      parent := some { group := "org.app", name := "app", version := "1.0" }
      parentModule := some 1
      body :=
        { dependencies := [{ group := "org.x", name := "lib", version := some "1.0" }]
          plugins := [{ group := "org.p", name := "old" }] }
      profiles := [{ id := "dev" }] },
    { group := some "org.app", name := "app", version := some "1.0", packaging := "pom"
      body := { properties := Table.ofList [("app.version", "$\x7bproject.version\x7d")] } }]
  forest := Reactor.forest_of_checks (by simp) (by decide) (by decide)

theorem tree_kept_childFirst :
    ∃ p, align busyPass busyInputs childFirst = .ok p ∧
      (p.reactor.module 0).packaging = "war" ∧ (p.reactor.module 0).parentModule = some 1 ∧
      p.reactor.chain 0 = [0, 1] ∧ p.reactor.order = [1, 0] := by
  have hsucceeds : (align busyPass busyInputs childFirst).isOk = true := by decide +kernel
  cases hrun : align busyPass busyInputs childFirst with
  | error e =>
    rw [hrun] at hsucceeds
    cases hsucceeds
  | ok p =>
    obtain ⟨_, hnode, _, hwalks, horder⟩ := tree_kept hrun
    exact ⟨p, rfl, (hnode 0).packaging, (hnode 0).parentModule,
      (hwalks 0).1.trans (by decide), horder.trans (by decide)⟩

end BuildAlign
