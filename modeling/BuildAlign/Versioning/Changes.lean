import BuildAlign.Reactor.Interpolation
import BuildAlign.Versioning.Policy

/-!
The version changes of a whole reactor. Every module's version is rebuilt on its own first. If this
gives more than one text with a build number, build numbers are then raised to the highest one of
their base, so that modules that are built together get the same version.
-/

namespace BuildAlign

/-- New versions by the present coordinate. Modules that keep their version are not listed. -/
abbrev VersionChanges := Table Coordinate String

namespace VersionChanges

/-- The coordinate of a module and its version rebuilt on its own; nothing for a module without a
version. -/
def rebuilt? (r : Reactor) (policy : VersionPolicy) (c : Candidates) (id : Nat) :
    Option (Coordinate × Version) :=
  (r.version? id).map fun present =>
    ((r.artifact id).at present, policy.calculate (r.artifact id) present c)

/-- The text of a version that has a build number. -/
def numbered? (osgi : Bool) (v : Version) : Option String :=
  if v.hasBuildNumber then some (v.renderAs osgi) else none

/-- A version with the highest build number of its base among the given texts, if there is more than
one text and a number among them. -/
def reconcile (texts : KeySet String) (v : Version) : Version :=
  let highest := v.highestBuild texts.keys
  if 1 < texts.size ∧ 0 < highest then v.setBuild highest else v

/-- Adds the text of a module to those so far, and lists the change if there is one. -/
def enter (state : KeySet String × VersionChanges) (present : Coordinate) (text : String) :
    KeySet String × VersionChanges :=
  (state.1.add text,
    if present.version = text then state.2 else state.2.insert present text)

/-- Settles one module: reconciles its version with the texts so far, and enters the text. -/
def settle (osgi : Bool) (state : KeySet String × VersionChanges) (item : Coordinate × Version) :
    KeySet String × VersionChanges :=
  enter state item.1 ((reconcile state.1 item.2).renderAs osgi)

def ofPolicy (r : Reactor) (policy : VersionPolicy) (osgi : Bool) (c : Candidates) :
    VersionChanges :=
  let items := r.ids.filterMap (rebuilt? r policy c)
  let texts := KeySet.ofList (items.filterMap fun item => numbered? osgi item.2)
  (items.foldl (settle osgi) (texts, ∅)).2

/-! The same steps with what they write: each of them may abort the run. -/

def rebuildModule? (r : Reactor) (policy : VersionPolicy) (c : Candidates) (id : Nat) :
    Option (Option (Coordinate × Version)) :=
  (r.version? id).mapM fun present =>
    (policy.calculate? (r.artifact id) present c).map fun v => ((r.artifact id).at present, v)

def writeNumbered? (osgi : Bool) (v : Version) : Option (Option String) :=
  if v.hasBuildNumber then (v.renderAs? osgi).map some else some none

def settle? (osgi : Bool) (state : KeySet String × VersionChanges) (item : Coordinate × Version) :
    Option (KeySet String × VersionChanges) :=
  ((reconcile state.1 item.2).renderAs? osgi).map (enter state item.1)

def ofPolicy? (r : Reactor) (policy : VersionPolicy) (osgi : Bool) (c : Candidates) :
    Option VersionChanges := do
  let items := (← r.ids.mapM (rebuildModule? r policy c)).filterMap id
  let texts := (← items.mapM fun item => writeNumbered? osgi item.2).filterMap id
  let settled ← items.foldlM (settle? osgi) (KeySet.ofList texts, ∅)
  return settled.2

end VersionChanges

end BuildAlign
