import BuildAlign.Pattern.CharSet

/-!
Patterns over texts and their search. A pattern is matched by the sets of positions at which its
matches can end, so matching needs no choice and no backtracking. `Pattern.start?` gives the place
of the leftmost match.
-/

namespace BuildAlign

inductive Assertion where
  | textStart
  | textEnd
  | lineStart
  | lineEnd
  /-- Like `lineStart`, where a carriage return with a line feed ends a line, and so does either. -/
  | anyLineStart
  | anyLineEnd
  /-- Conditions on whether the characters on both sides are in a set of word characters. -/
  | boundary (set : CharSet)
  | noBoundary (set : CharSet)
  | wordStart (set : CharSet)
  | wordEnd (set : CharSet)
  | noWordBefore (set : CharSet)
  | noWordAfter (set : CharSet)
  deriving DecidableEq, Repr

namespace Assertion

def holds (before after : Option Char) : Assertion → Bool
  | textStart => before.isNone
  | textEnd => after.isNone
  | lineStart => before.all (· == '\n')
  | lineEnd => after.all (· == '\n')
  | anyLineStart => before.all (· == '\n') || (before == some '\r' && after != some '\n')
  | anyLineEnd => after.all (· == '\r') || (after == some '\n' && before != some '\r')
  | boundary set => before.any set.contains != after.any set.contains
  | noBoundary set => before.any set.contains == after.any set.contains
  | wordStart set => !before.any set.contains && after.any set.contains
  | wordEnd set => before.any set.contains && !after.any set.contains
  | noWordBefore set => !before.any set.contains
  | noWordAfter set => !after.any set.contains

end Assertion

inductive Pattern where
  | empty
  | chars (set : CharSet)
  | look (a : Assertion)
  | seq (p q : Pattern)
  | alt (p q : Pattern)
  /-- At least `least` and at most `most` times. -/
  | repeated (p : Pattern) (least : Nat) (most : Option Nat)
  deriving DecidableEq, Repr

namespace Pattern

def iterate (step : List Nat → List Nat) : Nat → List Nat → List Nat
  | 0, at_ => at_
  | n + 1, at_ => iterate step n (step at_)

/-- The positions that are reached by at most `n` steps. -/
def reach (step : List Nat → List Nat) : Nat → List Nat → List Nat
  | 0, at_ => at_
  | n + 1, at_ => (at_ ++ reach step n (step at_)).eraseDups

def holdsAt (text : Array Char) (a : Assertion) (i : Nat) : Bool :=
  a.holds (if i = 0 then none else text[i - 1]?) text[i]?

/-- The positions at which matches end that start at one of the given positions. More repetitions
than there are positions reach nothing new. -/
def ends (text : Array Char) : Pattern → List Nat → List Nat
  | empty, at_ => at_
  | chars set, at_ => (at_.filter fun i => text[i]?.any set.contains).map (· + 1)
  | look a, at_ => at_.filter (holdsAt text a)
  | seq p q, at_ => q.ends text (p.ends text at_)
  | alt p q, at_ => (p.ends text at_ ++ q.ends text at_).eraseDups
  | repeated p least most, at_ =>
    let bound := text.size + 1
    reach (p.ends text) (match most with
        | some most => min (most - least) bound
        | none => bound)
      (iterate (p.ends text) (min least bound) at_)

/-- Where the leftmost match in a text starts. -/
def start? (p : Pattern) (text : List Char) : Option Nat :=
  (List.range (text.length + 1)).find? fun i => p.ends text.toArray [i] != []

end Pattern

end BuildAlign
