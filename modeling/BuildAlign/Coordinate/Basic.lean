import BuildAlign.Table

/-!
Identities. An artifact is named by its group and its own name; a coordinate adds a version, a type
and a classifier. Both are ordered part by part.
-/

namespace BuildAlign

/-- The identity `group:name` of an artifact, without a version. -/
structure Artifact where
  group : String
  name : String
  deriving DecidableEq, Repr, Inhabited

namespace Artifact

def order : Artifact → Artifact → Ordering :=
  compareLex (compareOn Artifact.group) (compareOn Artifact.name)

instance : Std.TransCmp order :=
  inferInstanceAs (Std.TransCmp (compareLex (compareOn Artifact.group) _))

instance : Ord Artifact := ⟨order⟩

instance : Key Artifact where
  trans := inferInstanceAs (Std.TransCmp order)
  lawful :=
    { compare_self := @Std.ReflCmp.compare_self _ order _
      eq_of_compare := fun {a b} h => by
        have h' : order a b = .eq := h
        simp only [order, compareLex_eq_eq, compareOn, Std.LawfulEqCmp.compare_eq_iff_eq] at h'
        cases a; cases b
        simp_all }

/-- The text `group:name`. -/
def text (a : Artifact) : String :=
  a.group ++ ":" ++ a.name

end Artifact

/-- The type of an artifact that does not say another one. -/
def defaultKind : String :=
  "jar"

structure Coordinate where
  artifact : Artifact
  version : String
  kind : String
  classifier : Option String
  deriving DecidableEq, Repr, Inhabited

def Artifact.at (a : Artifact) (version : String) : Coordinate :=
  { artifact := a, version, kind := defaultKind, classifier := none }

namespace Coordinate

/-- Artifact, version, type and classifier in this order; no classifier comes before any. -/
def order : Coordinate → Coordinate → Ordering :=
  compareLex (compareOn Coordinate.artifact) <| compareLex (compareOn Coordinate.version) <|
    compareLex (compareOn Coordinate.kind) (compareOn Coordinate.classifier)

instance : Std.TransCmp order :=
  inferInstanceAs (Std.TransCmp (compareLex (compareOn Coordinate.artifact) _))

instance : Ord Coordinate := ⟨order⟩

instance : Key Coordinate where
  trans := inferInstanceAs (Std.TransCmp order)
  lawful :=
    { compare_self := @Std.ReflCmp.compare_self _ order _
      eq_of_compare := fun {a b} h => by
        have h' : order a b = .eq := h
        simp only [order, compareLex_eq_eq, compareOn, Std.LawfulEqCmp.compare_eq_iff_eq] at h'
        cases a; cases b
        simp_all }

def withKind (c : Coordinate) (kind : String) : Coordinate :=
  { c with kind }

/-- Replaces the classifier; an empty one counts as none. -/
def withClassifier (c : Coordinate) (classifier : Option String) : Coordinate :=
  { c with classifier := classifier.filter fun s => !s.isEmpty }

/-- The text `group:name[:type[:classifier]]:version`; the type is left out when it is the default
one and there is no classifier. -/
def text (c : Coordinate) : String :=
  c.artifact.text
    ++ (match c.classifier with
      | some k => ":" ++ c.kind ++ ":" ++ k
      | none => if c.kind = defaultKind then "" else ":" ++ c.kind)
    ++ ":" ++ c.version

end Coordinate

end BuildAlign
