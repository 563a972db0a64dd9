import SensorRules.Text.Blank
import SensorRules.Text.Digit
import SensorRules.Text.Folding
import SensorRules.Text.Word

/-!
Sets of characters, as lists of ranges.

* `CharSet`: ascending ranges of code points that neither overlap nor adjoin;
* `CharSet.contains`: membership;
* `union`, `inter`, `diff`, `symmDiff`, `negate`: the set operations, each in one pass over the
  ranges;
* `folded` and `asciiFolded`: closure under case forms;
* `CharSet.named?`: the classes that a bracket names, such as `alpha` in `[:alpha:]`.

The surrogates, code points that are no characters, are stepped over: the successor of `0xD7FF` is
`0xE000`. Ranges on the two sides of them do not count as adjoining and stay apart.
-/

namespace SensorRules.Pattern

/-- A set of characters: the ranges of their code points, both ends included. -/
structure CharSet where
  /-- In ascending order, with a gap between any two. -/
  ranges : List (Nat × Nat)
deriving DecidableEq, Repr

namespace CharSet

/-- Membership. -/
def contains (s : CharSet) (c : Char) : Bool :=
  Text.inRanges s.ranges c

/-- All members are characters of ASCII. -/
def isAscii (s : CharSet) : Bool :=
  s.ranges.all (·.2 < 0x80)

/-- The set of no characters. -/
def empty : CharSet :=
  ⟨[]⟩

/-- The last code point. -/
def lastCode : Nat :=
  0x10FFFF

/-- The set of all characters. -/
def all : CharSet :=
  ⟨[(0, lastCode)]⟩

/-- The characters between two, both included. -/
def range (first last : Char) : CharSet :=
  ⟨[(first.toNat, last.toNat)]⟩

/-- The set of one character. -/
def single (c : Char) : CharSet :=
  range c c

/-- The code point of the next character. -/
def next (code : Nat) : Nat :=
  if code = 0xD7FF then 0xE000 else code + 1

/-- The code point of the character before. -/
def previous (code : Nat) : Nat :=
  if code = 0xE000 then 0xD7FF else code - 1

/-! ### Union -/

/-- Merges a range and the ranges after it, merged into `rest`, with further ranges. -/
def mergeRange (r : Nat × Nat) (later : List (Nat × Nat))
    (rest : List (Nat × Nat) → List (Nat × Nat)) : List (Nat × Nat) → List (Nat × Nat)
  | [] => r :: later
  | q :: qs => if r.1 ≤ q.1 then r :: rest (q :: qs) else q :: mergeRange r later rest qs

/-- Merges two lists of ranges by where the ranges begin. -/
def mergeRanges : List (Nat × Nat) → List (Nat × Nat) → List (Nat × Nat)
  | [] => id
  | r :: rs => mergeRange r rs (mergeRanges rs)

/-- Joins ranges that overlap or adjoin; they are given by where they begin. -/
def joinRanges : List (Nat × Nat) → List (Nat × Nat)
  | [] => []
  | r :: rs => go r rs
where
  go (r : Nat × Nat) : List (Nat × Nat) → List (Nat × Nat)
    | [] => [r]
    | q :: qs => if q.1 ≤ r.2 + 1 then go (r.1, max r.2 q.2) qs else r :: go q qs

/-- The characters of either set. -/
def union (s t : CharSet) : CharSet :=
  if t.ranges.isEmpty then s else ⟨joinRanges (mergeRanges s.ranges t.ranges)⟩

/-- The union of ranges in any order. -/
def ofRanges (ranges : List (Nat × Nat)) : CharSet :=
  ranges.foldr (fun r s => union ⟨[r]⟩ s) empty

/-- The union of ranges between characters. -/
def ofChars (ranges : List (Char × Char)) : CharSet :=
  ofRanges (ranges.map fun r => (r.1.toNat, r.2.toNat))

/-! ### Intersection and difference -/

/-- The parts that one range shares with some, before `rest` goes on with the next range. -/
def interRange (r : Nat × Nat) (rest : List (Nat × Nat) → List (Nat × Nat)) :
    List (Nat × Nat) → List (Nat × Nat)
  | [] => []
  | q :: qs =>
    let shared := (max r.1 q.1, min r.2 q.2)
    let later := if r.2 < q.2 then rest (q :: qs) else interRange r rest qs
    if shared.1 ≤ shared.2 then shared :: later else later

/-- The parts that ranges share with some. -/
def interRanges : List (Nat × Nat) → List (Nat × Nat) → List (Nat × Nat)
  | [] => fun _ => []
  | r :: rs => interRange r (interRanges rs)

/-- The characters of both sets. -/
def inter (s t : CharSet) : CharSet :=
  ⟨interRanges s.ranges t.ranges⟩

/-- What some ranges leave of one range, before `rest` goes on with the next. -/
def diffRange (rest : List (Nat × Nat) → List (Nat × Nat)) (r : Nat × Nat) :
    List (Nat × Nat) → List (Nat × Nat)
  | [] => r :: rest []
  | q :: qs =>
    if q.2 < r.1 then diffRange rest r qs
    else if r.2 < q.1 then r :: rest (q :: qs)
    else
      let later := if q.2 < r.2 then diffRange rest (next q.2, r.2) qs else rest (q :: qs)
      if r.1 < q.1 then (r.1, previous q.1) :: later else later

/-- What some ranges leave of others. -/
def diffRanges : List (Nat × Nat) → List (Nat × Nat) → List (Nat × Nat)
  | [] => fun _ => []
  | r :: rs => diffRange (diffRanges rs) r

/-- The characters of the first set only. -/
def diff (s t : CharSet) : CharSet :=
  ⟨diffRanges s.ranges t.ranges⟩

/-- The characters of exactly one of the sets. -/
def symmDiff (s t : CharSet) : CharSet :=
  (s.union t).diff (s.inter t)

/-- The range from the character after one code point to the character before another. Between
ranges that only the surrogates keep apart there is no character; there the two neighbours of the
surrogates are taken. -/
def between (before after : Nat) : Nat × Nat :=
  (min (next before) (previous after), max (next before) (previous after))

/-- The gaps after a code point that some ranges leave. -/
def gapsAfter (code : Nat) : List (Nat × Nat) → List (Nat × Nat)
  | [] => if code < lastCode then [(next code, lastCode)] else []
  | r :: rs => between code r.1 :: gapsAfter r.2 rs

/-- The gaps that the ranges leave. -/
def negate (s : CharSet) : CharSet :=
  match s.ranges with
  | [] => all
  | r :: rs =>
    let gaps := gapsAfter r.2 rs
    ⟨if 0 < r.1 then (0, previous r.1) :: gaps else gaps⟩

/-! ### Case -/

/-- Where a run moves the code points of a range that it covers. -/
def movedRange (run : Text.CaseRun) (r : Nat × Nat) : List (Nat × Nat) :=
  let first := max r.1 run.first
  let last := min r.2 run.last
  if last < first then []
  else if run.stride = 1 then [((first + run.shift).toNat, (last + run.shift).toNat)]
  else
    (List.range (last + 1 - first)).filterMap fun i =>
      (run.image? (first + i)).map fun code => (code, code)

/-- Where a run moves the characters of a set. -/
def moved (run : Text.CaseRun) (s : CharSet) : CharSet :=
  let near := (s.ranges.dropWhile (·.2 < run.first)).takeWhile (·.1 ≤ run.last)
  ⟨joinRanges (near.flatMap (movedRange run))⟩

/-- The set with what the runs make of its characters. -/
def withMoved (runs : List Text.CaseRun) (s : CharSet) : CharSet :=
  s.union (runs.foldl (fun t run => t.union (moved run s)) empty)

/-- The characters that are the same as a member up to case: first the foldings of all members are
added, then everything with one of these foldings. -/
def folded (s : CharSet) : CharSet :=
  withMoved (Text.foldRuns.map Text.CaseRun.reverse) (withMoved Text.foldRuns s)

/-- The same when only the letters of ASCII have case. -/
def asciiFolded (s : CharSet) : CharSet :=
  withMoved [Text.asciiRun, Text.asciiRun.reverse] s

/-! ### Classes -/

/-- The decimal digits of all scripts. -/
def digit : CharSet :=
  ofRanges Text.digitRanges

/-- White space. -/
def blank : CharSet :=
  ⟨Text.blankRanges⟩

/-- White space within ASCII: the horizontal tab to the carriage return, and the space. -/
def asciiBlank : CharSet :=
  ofChars [('\t', '\r'), (' ', ' ')]

/-- The word characters within ASCII. -/
def asciiWord : CharSet :=
  ofChars [('0', '9'), ('A', 'Z'), ('_', '_'), ('a', 'z')]

/-- The characters of words. -/
def word : CharSet :=
  ⟨asciiWord.ranges ++ Text.wordRanges⟩

/-- The class of ASCII characters with the given name. -/
def named? : String → Option CharSet
  | "alnum" => some (ofChars [('0', '9'), ('A', 'Z'), ('a', 'z')])
  | "alpha" => some (ofChars [('A', 'Z'), ('a', 'z')])
  | "ascii" => some (range '\x00' '\x7F')
  | "blank" => some (ofChars [('\t', '\t'), (' ', ' ')])
  | "cntrl" => some (ofChars [('\x00', '\x1F'), ('\x7F', '\x7F')])
  | "digit" => some (range '0' '9')
  | "graph" => some (range '!' '~')
  | "lower" => some (range 'a' 'z')
  | "print" => some (range ' ' '~')
  | "punct" => some (ofChars [('!', '/'), (':', '@'), ('[', '\x60'), ('\x7B', '~')])
  | "space" => some asciiBlank
  | "upper" => some (range 'A' 'Z')
  | "word" => some asciiWord
  | "xdigit" => some (ofChars [('0', '9'), ('A', 'F'), ('a', 'f')])
  | _ => none

end CharSet

end SensorRules.Pattern
