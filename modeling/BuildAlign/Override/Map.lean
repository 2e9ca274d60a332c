import BuildAlign.Coordinate.Parse

/-!
Override maps: which version an artifact should be moved to. The entries keep the order of their
source, no two of them have the same coordinate, and an artifact may have several.
-/

namespace BuildAlign

inductive OverrideSource where
  | bom
  | rest
  | extra (name : String)
  | explicit
  deriving DecidableEq, Repr

def OverrideSource.word : OverrideSource → String
  | bom => "bom"
  | rest => "rest"
  | extra name => "extra:" ++ name
  | explicit => "explicit"

/-- One override: the coordinate to move to and the source that gave it. -/
structure OverrideEntry where
  target : Coordinate
  source : OverrideSource
  deriving DecidableEq, Repr

namespace OverrideEntry

def artifact (e : OverrideEntry) : Artifact :=
  e.target.artifact

def version (e : OverrideEntry) : String :=
  e.target.version

end OverrideEntry

/-- Entries in the order of their first insertion, with pairwise different coordinates. -/
structure OverrideMap where
  entries : List OverrideEntry
  distinct : (entries.map OverrideEntry.target).Nodup

namespace OverrideMap

instance : DecidableEq OverrideMap := fun m n =>
  decidable_of_iff (m.entries = n.entries) <| by cases m; cases n; simp

instance : Repr OverrideMap := ⟨fun m n => reprPrec m.entries n⟩

def empty : OverrideMap := ⟨[], .nil⟩

instance : Inhabited OverrideMap := ⟨empty⟩

instance : EmptyCollection OverrideMap := ⟨empty⟩

/-- Appends an entry, unless there is one with the same coordinate. -/
def insert (m : OverrideMap) (e : OverrideEntry) : OverrideMap :=
  if h : e.target ∈ m.entries.map OverrideEntry.target then m
  else
    { entries := m.entries ++ [e]
      distinct := by
        simp only [List.map_append, List.map_cons, List.map_nil]
        rw [List.nodup_append]
        refine ⟨m.distinct, by simp, ?_⟩
        intro a ha b hb
        simp only [List.mem_singleton] at hb
        exact fun hab => h (hb ▸ hab ▸ ha) }

def extend (m other : OverrideMap) : OverrideMap :=
  other.entries.foldl insert m

def retain (m : OverrideMap) (keep : OverrideEntry → Bool) : OverrideMap where
  entries := m.entries.filter keep
  distinct := m.distinct.sublist (List.filter_sublist.map _)

def ofCoordinates (source : OverrideSource) (targets : List Coordinate) : OverrideMap :=
  targets.foldl (fun m target => m.insert { target, source }) empty

def entriesOf (m : OverrideMap) (a : Artifact) : List OverrideEntry :=
  m.entries.filter (·.artifact == a)

def first? (m : OverrideMap) (a : Artifact) : Option OverrideEntry :=
  m.entries.find? (·.artifact == a)

def artifacts (m : OverrideMap) : KeySet Artifact :=
  .ofList (m.entries.map OverrideEntry.artifact)

def size (m : OverrideMap) : Nat :=
  m.entries.length

def isEmpty (m : OverrideMap) : Bool :=
  m.entries.isEmpty

def without (m : OverrideMap) (artifacts : KeySet Artifact) : OverrideMap :=
  m.retain fun e => !artifacts.contains e.artifact

def dropped (m : OverrideMap) (artifacts : KeySet Artifact) : Nat :=
  m.size - (m.without artifacts).size

/-- Inserts coordinates that are read one after the other; the first that cannot be read is the
error, with its text. -/
def ofTexts (source : OverrideSource) (texts : List String) :
    Except (String × IdentityError) OverrideMap :=
  (texts.mapM fun s => (Coordinate.parse s).mapError (s, ·)).map (ofCoordinates source)

/-- Plain coordinates from pairs of an identity text and a version, read in their order. -/
def ofPairs (source : OverrideSource) (pairs : List (String × String)) :
    Except (String × IdentityError) OverrideMap :=
  (pairs.mapM fun (s, version) =>
    ((Artifact.parse s).map (Artifact.at · version)).mapError (s, ·)).map (ofCoordinates source)

end OverrideMap

end BuildAlign
