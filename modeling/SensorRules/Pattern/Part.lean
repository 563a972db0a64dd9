import SensorRules.Pattern.Size

/-!
Parts of written patterns.

* `Part`: what a part matches, how it is laid out and how deep it nests;
* `Part.inOrder`, `Part.oneOf`, `Part.repeating` and `Part.group`: parts put together;
* `Part.admitted`: a whole pattern is neither nested too deep nor too large.
-/

namespace SensorRules

/-- The patterns one after the other. -/
def Pattern.inOrder : List Pattern → Pattern
  | [] => empty
  | [p] => p
  | p :: ps => append p (inOrder ps)

/-- One of the patterns, of which there is at least one. -/
def Pattern.oneOf : List Pattern → Pattern
  | [] => empty
  | [p] => p
  | p :: ps => either p (oneOf ps)

namespace Pattern

/-- A part of a written pattern. -/
structure Part where
  /-- What it matches. -/
  pattern : Pattern
  /-- How it is laid out. -/
  plan : Plan
  /-- How deep brackets, repetitions, sequences and choices nest in it. -/
  depth : Nat

namespace Part

/-- Nothing, or a directive. -/
def empty : Part :=
  ⟨.empty, .empty, 0⟩

/-- One character of a set, in ASCII mode or not. -/
def ofSet (ascii : Bool) (s : CharSet) (depth : Nat) : Part :=
  ⟨.set s, .ofSet ascii s, depth⟩

/-- A condition on the place. -/
def ofAnchor (a : Anchor) : Part :=
  ⟨.anchor a, .anchor a, 0⟩

/-- The depth of several parts together: one level more than the deepest of them. -/
def depthOf : List Part → Nat
  | [] => 0
  | [p] => p.depth
  | ps => (ps.map depth).foldl max 0 + 1

/-- The parts one after the other. -/
def inOrder (ps : List Part) : Part :=
  ⟨.inOrder (ps.map pattern), .inOrder (ps.map plan), depthOf ps⟩

/-- One of the parts, of which there is at least one. -/
def oneOf (ps : List Part) : Part :=
  ⟨.oneOf (ps.map pattern), .oneOf (ps.map plan), depthOf ps⟩

/-- A repetition. -/
def repeating (p : Part) (least : Nat) (most : Option Nat) (lazy : Bool) : Part :=
  ⟨.repeated p.pattern least most, p.plan.repeating least most lazy, p.depth + 1⟩

/-- A group, with its number if its stretch is remembered. -/
def group (number : Option Nat) (p : Part) : Part :=
  ⟨p.pattern, number.elim p.plan (.group · p.plan), p.depth + 1⟩

/-- How deep a pattern may nest. -/
def depthLimit : Nat :=
  250

/-- A whole pattern that is neither nested too deep nor too large. -/
def admitted (p : Part) : Bool :=
  p.depth ≤ depthLimit && p.plan.fits

end Part

end Pattern

end SensorRules
