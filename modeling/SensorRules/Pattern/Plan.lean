import SensorRules.Pattern.Basic
import SensorRules.Pattern.Encoding

/-!
Plans: patterns in the form in which they are laid out as states.

* `Plan`: literals, sets, anchors, repetitions, numbered groups, sequences and choices;
* `Plan.shortest?` and `Plan.longest?`: how many bytes the stretches that match have;
* `Plan.opensWith` and `Plan.closesWith`: the anchors that every match begins or ends with;
* `Plan.ofSet`, `Plan.repeating`, `Plan.inOrder` and `Plan.oneOf`: parts put together, simplified.

Simplified means: neighbouring literals are one, no part of a sequence is empty, a sequence within a
sequence and a choice within a choice are dissolved, a choice between single characters or between
sets is a set, and what all branches of a choice begin with stands before it.
-/

namespace SensorRules.Pattern

/-- A pattern in simplified form. -/
inductive Plan where
  | empty
  /-- Characters that each match themselves. -/
  | literal (cs : List Char)
  /-- One character of the set; with `ascii`, the set is one of bytes below `0x80`. -/
  | set (ascii : Bool) (s : CharSet)
  | anchor (a : Anchor)
  /-- From `least` to `most` times `p`; `lazy` tells which numbers are tried first. -/
  | repeated (p : Plan) (least : Nat) (most : Option Nat) (lazy : Bool)
  /-- A group whose stretch is remembered; no two groups have one number. -/
  | group (number : Nat) (p : Plan)
  | sequence (ps : List Plan)
  | choice (ps : List Plan)

namespace Plan

/-- The plan that matches nothing. -/
def fail : Plan :=
  set true .empty

/-! ### Comparison -/

mutual

/-- The two plans are the same in every part. -/
def same : Plan → Plan → Bool
  | empty, empty => true
  | literal cs, literal ds => cs == ds
  | set ascii s, set ascii' s' => ascii == ascii' && s == s'
  | anchor a, anchor b => a == b
  | repeated p least most lz, repeated q least' most' lz' =>
    least == least' && most == most' && lz == lz' && p.same q
  | group number p, group number' q => number == number' && p.same q
  | sequence ps, sequence qs => allSame ps qs
  | choice ps, choice qs => allSame ps qs
  | _, _ => false

/-- The plans of the two lists are the same, one by one. -/
def allSame : List Plan → List Plan → Bool
  | [], [] => true
  | p :: ps, q :: qs => p.same q && allSame ps qs
  | _, _ => false

end

/-! ### Lengths and anchors -/

mutual

/-- The least number of bytes of a match; none if a set without characters is in the way. -/
def shortest? : Plan → Option Nat
  | empty => some 0
  | literal cs => some (cs.map fun c => (encode c.toNat).length).sum
  | set _ s => s.ranges.head?.map fun r => (encode r.1).length
  | anchor _ => some 0
  | repeated p least _ _ => p.shortest?.map (· * least)
  | group _ p => p.shortest?
  | sequence ps => (shortests? ps).map List.sum
  | choice ps => (shortests? ps).bind List.min?

/-- The least numbers of bytes of all plans. -/
def shortests? : List Plan → Option (List Nat)
  | [] => some []
  | p :: ps =>
    match p.shortest?, shortests? ps with
    | some n, some ns => some (n :: ns)
    | _, _ => none

end

mutual

/-- The greatest number of bytes of a match; none if there is no bound or a set without characters
is in the way. -/
def longest? : Plan → Option Nat
  | empty => some 0
  | literal cs => some (cs.map fun c => (encode c.toNat).length).sum
  | set _ s => s.ranges.getLast?.map fun r => (encode r.2).length
  | anchor _ => some 0
  | repeated p _ most _ =>
    match p.longest?, most with
    | some n, some m => some (n * m)
    | _, _ => none
  | group _ p => p.longest?
  | sequence ps => (longests? ps).map List.sum
  | choice ps => (longests? ps).bind List.max?

/-- The greatest numbers of bytes of all plans. -/
def longests? : List Plan → Option (List Nat)
  | [] => some []
  | p :: ps =>
    match p.longest?, longests? ps with
    | some n, some ns => some (n :: ns)
    | _, _ => none

end

/-- Every match is empty. -/
def takesNothing (p : Plan) : Bool :=
  p.longest? == some 0

/-- No match is empty. -/
def takesSomething (p : Plan) : Bool :=
  p.shortest?.any (0 < ·)

mutual

/-- The anchor stands before all that a match may take. -/
def opensWith (a : Anchor) : Plan → Bool
  | anchor b => a == b
  | repeated p least _ _ => 0 < least && p.opensWith a
  | group _ p => p.opensWith a
  | sequence ps => firstOpensWith a ps
  | choice ps => allOpenWith a ps
  | _ => false

/-- The same for plans in a row: it may follow some that take nothing. -/
def firstOpensWith (a : Anchor) : List Plan → Bool
  | [] => false
  | p :: ps => p.opensWith a || (p.takesNothing && firstOpensWith a ps)

/-- The same for each of the plans. -/
def allOpenWith (a : Anchor) : List Plan → Bool
  | [] => true
  | p :: ps => p.opensWith a && allOpenWith a ps

end

mutual

/-- The anchor stands after all that a match may take. -/
def closesWith (a : Anchor) : Plan → Bool
  | anchor b => a == b
  | repeated p least _ _ => 0 < least && p.closesWith a
  | group _ p => p.closesWith a
  | sequence ps => lastClosesWith a ps
  | choice ps => allCloseWith a ps
  | _ => false

/-- The same for plans in a row: some that take nothing may follow it. -/
def lastClosesWith (a : Anchor) : List Plan → Bool
  | [] => false
  | p :: ps => (p.closesWith a && ps.all takesNothing) || lastClosesWith a ps

/-- The same for each of the plans. -/
def allCloseWith (a : Anchor) : List Plan → Bool
  | [] => true
  | p :: ps => p.closesWith a && allCloseWith a ps

end

/-! ### Simplification -/

/-- One character of a set; a single character is a literal. -/
def ofSet (ascii : Bool) (s : CharSet) : Plan :=
  match s.ranges with
  | [] => fail
  | [r] => if r.1 = r.2 then literal [Char.ofNat r.1] else set ascii s
  | _ => set ascii s

/-- A repetition. What takes nothing need not be repeated more than once. -/
def repeating (p : Plan) (least : Nat) (most : Option Nat) (lazy : Bool) : Plan :=
  let least := if p.takesNothing then min least 1 else least
  let most := if p.takesNothing then some (min (most.getD 1) 1) else most
  if least = 0 ∧ most = some 0 then empty
  else if least = 1 ∧ most = some 1 then p
  else repeated p least most lazy

/-- The parts of a sequence, or the plan itself as the only part; none if it is empty. -/
def parts : Plan → List Plan
  | empty => []
  | sequence ps => ps
  | p => [p]

/-- The branches of a choice, or the plan itself as the only one. -/
def branches : Plan → List Plan
  | choice ps => ps
  | p => [p]

/-- A part put before others; two literals become one. -/
def prepend : Plan → List Plan → List Plan
  | literal cs, literal ds :: ps => literal (cs ++ ds) :: ps
  | p, ps => p :: ps

/-- The plans one after the other. -/
def inOrder (ps : List Plan) : Plan :=
  match (ps.flatMap parts).foldr prepend [] with
  | [] => empty
  | [p] => p
  | qs => sequence qs

/-- The character of a literal of one character. -/
def char? : Plan → Option CharSet
  | literal [c] => some (.single c)
  | _ => none

/-- The set of a plan that is one. -/
def set? : Plan → Option CharSet
  | set _ s => some s
  | _ => none

/-- The parts of a sequence. -/
def sequence? : Plan → Option (List Plan)
  | sequence ps => some ps
  | _ => none

/-- What two lists of parts begin with alike. -/
def shared : List Plan → List Plan → List Plan
  | p :: ps, q :: qs => if p.same q then p :: shared ps qs else []
  | _, _ => []

/-- The union of sets. -/
def unionOf (sets : List CharSet) : Plan :=
  ofSet false (sets.foldl .union .empty)

/-- A choice without a look at what the branches begin with. -/
def alternatives (ps : List Plan) : Plan :=
  match ps.flatMap branches with
  | [] => fail
  | [p] => p
  | qs =>
    match qs.mapM char?, qs.mapM set? with
    | some chars, _ => unionOf chars
    | none, some sets => unionOf sets
    | none, none => choice qs

/-- One of the plans. If all are sequences, what they share at the beginning stands before the
choice between the rests; those share nothing more. -/
def oneOf (ps : List Plan) : Plan :=
  match alternatives ps with
  | choice qs =>
    match qs.mapM sequence? with
    | some (first :: others) =>
      match others.foldl shared first with
      | [] => choice qs
      | start =>
        let rest (parts : List Plan) : Plan := inOrder (parts.drop start.length)
        inOrder (start ++ [alternatives ((first :: others).map rest)])
    | _ => choice qs
  | p => p

end Plan

end SensorRules.Pattern
