import SensorRules.Pattern.Plan
import Std.Data.HashMap

/-!
The size of patterns. A pattern in use is two networks of states that step over bytes, one for each
direction of reading; repetitions with bounds are written out in them. A pattern whose networks
would be too large is refused.

* `Tally`: the states laid out so far and the bytes that they take;
* `Plan.layOut?`: the tally after a plan is laid out as well;
* `Plan.fits`: both networks of a plan stay within `sizeLimit`.

A state takes 32 bytes. One that leads on to several others without a step takes 4 more for each of
them, and one that tells ranges of bytes apart takes 8 more for each range. States for the bytes of
a character are shared as far as `Recent`, a table with one slot for a key, remembers them.
-/

namespace SensorRules.Pattern

/-- The bytes that a network may take: ten mebibytes. -/
def sizeLimit : Nat :=
  10 * Nat.pow 2 20

/-- The size of a network: the number of its states and the bytes they take. -/
structure Tally where
  states : Nat := 0
  bytes : Nat := 0
deriving DecidableEq, Repr

namespace Tally

/-- More states, with some bytes beyond those that every state takes. -/
def add (t : Tally) (states extra : Nat) : Tally :=
  ⟨t.states + states, t.bytes + 32 * states + extra⟩

/-- The tally, unless it is beyond the limit. -/
def within? (t : Tally) : Option Tally :=
  if t.bytes ≤ sizeLimit then some t else none

/-- More states, unless that goes beyond the limit. -/
def grow? (t : Tally) (states extra : Nat) : Option Tally :=
  (t.add states extra).within?

end Tally

/-! ### Literals side by side -/

/-- The different first bytes of words. -/
def firstBytes (words : List (List Nat)) : List Nat :=
  (words.filterMap List.head?).eraseDups

/-- Adds the states that read one of some words, not all of them empty and none longer than `depth`.
Words that begin with the same byte share the states for what they have in common, but not across a
word that has ended there: the words between two ends have one state, with a range for each first
byte, and one more state leads to all of these and to the ends. Ends before all longer words count
once. -/
def addWords (t : Tally) : Nat → List (List Nat) → Tally
  | 0, _ => t
  | depth + 1, words =>
    let longer := words.dropWhile List.isEmpty
    let ends := longer.count [] + if longer.length < words.length then 1 else 0
    let runs := (longer.splitOn []).filter (!·.isEmpty)
    let branch (t : Tally) (run : List (List Nat)) (byte : Nat) : Tally :=
      let rests := (run.filter (·.head? == some byte)).map List.tail
      if rests.all List.isEmpty then t else addWords t depth rests
    let run (t : Tally) (run : List (List Nat)) : Tally :=
      let bytes := firstBytes run
      (bytes.foldl (branch · run) t).add 1 (if bytes.length = 1 then 0 else 8 * bytes.length)
    (runs.foldl run t).add 1 (4 * (runs.length + ends))

/-! ### Sets -/

/-- A table of fixed size. A key has one slot, and a later key takes over the slot of an earlier
one. -/
structure Recent where
  size : Nat
  slots : Std.HashMap Nat (List Nat × Nat) := ∅

namespace Recent

/-- The slot of a key, by its hash: numbers are taken in by exclusive or and multiplication. -/
def slot (r : Recent) (key : List Nat) : Nat :=
  let hash : UInt64 := key.foldl (fun h n => (h ^^^ n.toUInt64) * 1099511628211)
    14695981039346656037
  hash.toNat % r.size

/-- What the table still holds for a key. -/
def find? (r : Recent) (key : List Nat) : Option Nat :=
  match r.slots[r.slot key]? with
  | some (key', n) => if key' = key then some n else none
  | none => none

/-- The table with a value for a key. -/
def insert (r : Recent) (key : List Nat) (n : Nat) : Recent :=
  { r with slots := r.slots.insert (r.slot key) (key, n) }

end Recent

/-- A network while a set is laid out: its tally, and the states that may be shared. -/
structure Draft where
  tally : Tally
  recent : Recent

/-- The state with the given description, and with some bytes beyond those that every state takes:
one that is still remembered, or a new one. States are numbered as they come. -/
def Draft.state (d : Draft) (key : List Nat) (extra : Nat) : Nat × Draft :=
  match d.recent.find? key with
  | some n => (n, d)
  | none =>
    let n := d.tally.states
    (n, ⟨d.tally.add 1 extra, d.recent.insert key n⟩)

/-- The state that steps over any of the sequences and then is at `target`; those with the same
first range stand together and share the states after it. -/
def Draft.forward (target : Nat) : Nat → Draft → List (List (Nat × Nat)) → Nat × Draft
  | 0, d, _ => (target, d)
  | depth + 1, d, seqs =>
    let groups := seqs.splitBy fun s t => s.head? == t.head?
    let step (sofar : List (List Nat) × Draft) (group : List (List (Nat × Nat))) :
        List (List Nat) × Draft :=
      match group with
      | (r :: rest) :: _ =>
        let (next, d) :=
          if rest.isEmpty then (target, sofar.2)
          else Draft.forward target depth sofar.2 (group.map List.tail)
        ([r.1, r.2, next] :: sofar.1, d)
      | _ => sofar
    let (links, d) := groups.foldl step ([], d)
    d.state links.reverse.flatten (8 * links.length)

/-- The state that steps over a sequence in the other direction and then is at `target`. -/
def Draft.backward (target : Nat) (d : Draft) (seq : List (Nat × Nat)) : Nat × Draft :=
  seq.foldl (fun (next, d) r => d.state [next, r.1, r.2] 0) (target, d)

/-- The tally with the states for one character of a set. -/
def Tally.addSet (t : Tally) (backward : Bool) (s : CharSet) : Tally :=
  let seqs := s.ranges.flatMap byteSequences
  if s.isAscii then t.add 2 (8 * s.ranges.length)
  else if backward then
    let t := t.add 2 (4 * seqs.length)
    let d : Draft := ⟨t, { size := 1000 }⟩
    (seqs.foldl (fun d seq => (d.backward (t.states - 1) seq).2) d).tally
  else
    let d : Draft := ⟨t.add 1 0, { size := 10000 }⟩
    (d.forward t.states 4 seqs).2.tally

/-! ### Plans -/

namespace Plan

/-- Lays out the same thing a number of times. -/
def times? (layOut : Tally → Option Tally) : Nat → Tally → Option Tally
  | 0, t => some t
  | n + 1, t =>
    match layOut t with
    | some t => times? layOut n t
    | none => none

/-- Lays out something in a row; if there is none of it, a state that leads on stands in. -/
def row? (layOut : Tally → Option Tally) (n : Nat) (t : Tally) : Option Tally :=
  if n = 0 then t.grow? 1 0 else times? layOut n t

/-- Lays out a repetition: copies up to the lower bound, then a state that leads back, or for every
further copy one that leads past it too. -/
def repeated? (layOut : Tally → Option Tally) (mayBeEmpty : Bool) (least : Nat) (most : Option Nat)
    (t : Tally) : Option Tally :=
  match least, most with
  | 0, none =>
    if mayBeEmpty then (layOut t).bind (·.grow? 3 16) else (t.grow? 1 8).bind layOut
  | least, none => (times? layOut least t).bind (·.grow? 1 8)
  | 0, some 1 => ((t.grow? 1 8).bind layOut).bind (·.grow? 1 0)
  | least, some most =>
    if least = most then row? layOut least t
    else do
      let t ← row? layOut least t
      let t ← t.grow? 1 0
      times? (fun t => (t.grow? 1 8).bind layOut) (most - least) t

/-- The bytes of a literal. -/
def bytes? : Plan → Option (List Nat)
  | literal cs => some (cs.flatMap fun c => encode c.toNat)
  | _ => none

mutual

/-- The tally after a plan is laid out too, for reading in one direction or backwards; nothing if
that goes beyond the limit. Only when reading forwards are groups remembered. -/
def layOut? (backward : Bool) : Plan → Tally → Option Tally
  | empty, t => t.grow? 1 0
  | literal cs, t => t.grow? (cs.flatMap fun c => encode c.toNat).length 0
  | set _ s, t => (t.addSet backward s).within?
  | anchor _, t => t.grow? 1 0
  | repeated p least most _, t =>
    repeated? (fun t => p.layOut? backward t) (!p.takesSomething) least most t
  | group _ p, t =>
    if backward then p.layOut? backward t
    else ((t.grow? 1 0).bind fun t => p.layOut? backward t).bind (·.grow? 1 0)
  | sequence ps, t => layOutRow? backward ps t
  | choice ps, t =>
    match ps.mapM bytes? with
    | some words =>
      let words := if backward then words.map List.reverse else words
      (addWords (t.add 1 0) (words.map List.length).sum words).within?
    | none => (t.grow? 0 (4 * ps.length)).bind fun t => layOutBranches? backward 2 ps t

/-- Lays out plans one after the other, the last one first when reading backwards. -/
def layOutRow? (backward : Bool) : List Plan → Tally → Option Tally
  | [], t => some t
  | p :: ps, t =>
    if backward then (layOutRow? backward ps t).bind fun t => p.layOut? backward t
    else (p.layOut? backward t).bind fun t => layOutRow? backward ps t

/-- Lays out branches; the states where they part and meet come after the first two. -/
def layOutBranches? (backward : Bool) (before : Nat) : List Plan → Tally → Option Tally
  | [], t => some t
  | p :: ps, t =>
    ((p.layOut? backward t).bind (·.grow? (if before = 1 then 2 else 0) 0)).bind fun t =>
      layOutBranches? backward (before - 1) ps t

end

/-- The network of a whole pattern in one direction: a state to begin at, or three that step over
any bytes before a match unless an anchor excludes that; the pattern; a state to end at. -/
def network? (p : Plan) (backward : Bool) : Option Tally :=
  let anchored := if backward then p.closesWith .textEnd else p.opensWith .textStart
  let start : Tally := {}
  ((if anchored then start.grow? 1 0 else start.grow? 3 16).bind
    ((group 0 p).layOut? backward)).bind (·.grow? 1 0)

/-- Both networks stay within the limit. -/
def fits (p : Plan) : Bool :=
  (p.network? false).isSome && (p.network? true).isSome

end Plan

end SensorRules.Pattern
