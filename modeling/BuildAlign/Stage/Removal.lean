import BuildAlign.Alignment.Error
import BuildAlign.Config.Basic
import BuildAlign.Progress

/-!
The removal of plugins and profiles. Plugins are named by their artifact and removed from the lists
of plugins and of managed plugins in all bodies; profiles are named by their id.
-/

namespace BuildAlign

namespace PluginRemoval

/-- The artifacts of the plugins to remove; the first text that names none is the error. -/
def targets (plugins : List String) : Except ConfigError (KeySet Artifact) :=
  (plugins.mapM fun s => (Artifact.parse s).mapError (.badPlugin s)).map KeySet.ofList

def pluginArtifact (r : Reactor) (id : Nat) (plugin : Plugin) : Artifact where
  group := r.resolve id plugin.group
  name := r.resolve id plugin.name

def isTarget (targets : KeySet Artifact) (r : Reactor) (id : Nat) (plugin : Plugin) : Bool :=
  targets.contains (pluginArtifact r id plugin)

def removeFrom (gone : Plugin → Bool) (b : Body) : Body :=
  { b with
    plugins := b.plugins.filter fun x => !gone x
    managedPlugins := b.managedPlugins.filter fun x => !gone x }

/-- Removes plugins from one scope of a module, and reports them as they are written. -/
def removeScope (targets : KeySet Artifact) (id : Nat) (artifact : Artifact) (p : Progress)
    (scope : Scope) : Progress :=
  let gone := isTarget targets p.reactor id
  let body := ((p.reactor.module id).body? scope).getD {}
  let removed := body.plugins.filter gone ++ body.managedPlugins.filter gone
  let reactor := p.reactor.modifyBody id scope (removeFrom gone)
  removed.foldl
    (fun p x =>
      p.edit reactor id artifact (.removedPlugin { group := x.group, name := x.name }) none none)
    p

def removeModule (targets : KeySet Artifact) (p : Progress) (id : Nat) : Progress :=
  ((p.reactor.module id).bodies.map Prod.fst).foldl
    (removeScope targets id (p.reactor.artifact id)) p

def run (plugins : List String) (p : Progress) : Except ConfigError Progress :=
  (targets plugins).map fun targets => p.reactor.ids.foldl (removeModule targets) p

end PluginRemoval

namespace ProfileRemoval

def removeModule (ids : List String) (p : Progress) (id : Nat) : Progress :=
  let isTarget (profile : Profile) : Bool := ids.contains profile.id
  let artifact := p.reactor.artifact id
  let reactor := p.reactor.modify id
    (fun m => { m with profiles := m.profiles.filter fun x => !isTarget x }) fun _ => rfl
  ((p.reactor.module id).profiles.filter isTarget).foldl
    (fun p x => p.edit reactor id artifact (.removedProfile x.id) none none) p

def run (profiles : List String) (p : Progress) : Progress :=
  p.reactor.ids.foldl (removeModule (profiles.map Text.trimmed)) p

end ProfileRemoval

end BuildAlign
