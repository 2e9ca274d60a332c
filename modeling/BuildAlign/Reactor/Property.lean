import BuildAlign.Reactor.Interpolation

/-!
Where properties live. A property that is only an alias of another one is followed to the property
that holds a value of its own, for as long as the aliases lead to declared properties.
-/

namespace BuildAlign

/-- A declaration of a property, with its value. -/
structure PropertyPlace where
  module : Nat
  scope : Scope
  name : String
  value : String
  deriving DecidableEq, Repr

/-- The place of a property value, whatever the value is. -/
structure PropertySlot where
  module : Nat
  scope : Scope
  name : String
  deriving DecidableEq, Repr

namespace PropertySlot

def order : PropertySlot → PropertySlot → Ordering :=
  compareLex (compareOn PropertySlot.module)
    (compareLex (compareOn PropertySlot.scope) (compareOn PropertySlot.name))

instance : Std.TransCmp order :=
  inferInstanceAs (Std.TransCmp (compareLex (compareOn PropertySlot.module) _))

instance : Ord PropertySlot := ⟨order⟩

instance : Key PropertySlot where
  trans := inferInstanceAs (Std.TransCmp order)
  lawful :=
    { compare_self := @Std.ReflCmp.compare_self _ order _
      eq_of_compare := fun {a b} h => by
        have h' : order a b = .eq := h
        simp only [order, compareLex_eq_eq, compareOn, Std.LawfulEqCmp.compare_eq_iff_eq] at h'
        cases a; cases b
        simp_all }

end PropertySlot

def PropertyPlace.slot (p : PropertyPlace) : PropertySlot :=
  { module := p.module, scope := p.scope, name := p.name }

namespace Reactor

def ownPlace? (r : Reactor) (name : String) (id : Nat) : Option PropertyPlace :=
  ((r.module id).ownProperty? name).map fun (scope, value) => { module := id, scope, name, value }

/-- The nearest declaration of a property that a module sees. -/
def nearestPlace? (r : Reactor) (id : Nat) (name : String) : Option PropertyPlace :=
  (r.chain id).findSome? (r.ownPlace? name)

/-- The declaration that an alias leads to, if it is another one. -/
def nextPlace? (r : Reactor) (id : Nat) (place : PropertyPlace) : Option PropertyPlace :=
  ((propertyOf? place.value).bind (r.nearestPlace? id)).filter (· ≠ place)

def followAliases (r : Reactor) (id : Nat) : Nat → PropertyPlace → PropertyPlace
  | 0, place => place
  | n + 1, place =>
    match r.nextPlace? id place with
    | some next => r.followAliases id n next
    | none => place

/-- The declaration that decides the value of a property in a module, past all aliases. -/
def locate? (r : Reactor) (id : Nat) (name : String) : Option PropertyPlace :=
  (r.nearestPlace? id name).map (r.followAliases id maxDepth)

/-- Whether a text refers, through at most `n` aliases, to the version of the module itself. The
version of the parent counts only where the module inherits it. -/
def followsVersion (r : Reactor) (id : Nat) : Nat → String → Bool
  | 0, _ => false
  | n + 1, raw =>
    match Template.single? raw with
    | none => false
    | some name =>
      match ProjectPart.ofName? name with
      | some .version => true
      | some .parentVersion => (r.module id).version.isNone
      | some _ => false
      | none =>
        match r.lookup id name with
        | some next => r.followsVersion id n next
        | none => false

/-- Whether a text is one reference that leads to the version of the module itself. -/
def isOwnVersion (r : Reactor) (id : Nat) (raw : String) : Bool :=
  r.followsVersion id maxDepth raw

end Reactor

end BuildAlign
