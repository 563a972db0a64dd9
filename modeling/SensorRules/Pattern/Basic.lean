import SensorRules.Pattern.CharSet

/-!
Patterns and the stretches of a text that they match.

* `Anchor`: a condition on the two characters around a place in a text;
* `Pattern`: sets of characters and anchors, closed under sequence, choice and repetition;
* `Pattern.Matches`: the places between which a pattern matches, by the usual meaning of each part;
* `Pattern.reach`: the places that a pattern leads to from given ones, all at once;
* `Pattern.occursIn`: some stretch of the text is matched.

A set of places in a text of `n` characters is a list of `n + 1` marks, one for each place. Only
whether a pattern matches is asked, so lazy and greedy repetition are one.
-/

namespace SensorRules.Pattern

/-- A condition on a place in a text, decided by the character before it and the one after it. -/
inductive Anchor where
  | textStart
  | textEnd
  /-- The beginning of a line; with `crlf`, lines may also end in a carriage return. -/
  | lineStart (crlf : Bool)
  /-- The end of a line. -/
  | lineEnd (crlf : Bool)
  /-- A word character on exactly one side; with `ascii`, only those of ASCII count. -/
  | wordBoundary (ascii : Bool)
  | notWordBoundary (ascii : Bool)
  | wordStart (ascii : Bool)
  | wordEnd (ascii : Bool)
  /-- No word character before. -/
  | wordStartHalf (ascii : Bool)
  /-- No word character after. -/
  | wordEndHalf (ascii : Bool)
deriving DecidableEq, Repr

namespace Anchor

/-- A word character stands on this side. -/
def isWord (ascii : Bool) (side : Option Char) : Bool :=
  side.any fun c => if ascii then Text.isAsciiWordChar c else Text.isWordChar c

/-- The anchor holds between these two characters; `none` is an end of the text. -/
def holds (before after : Option Char) : Anchor → Bool
  | textStart => before.isNone
  | textEnd => after.isNone
  | lineStart false => before.all (· == '\n')
  | lineStart true => before.all fun c => c == '\n' || (c == '\r' && after != some '\n')
  | lineEnd false => after.all (· == '\n')
  | lineEnd true => after.all fun c => c == '\r' || (c == '\n' && before != some '\r')
  | wordBoundary ascii => isWord ascii before != isWord ascii after
  | notWordBoundary ascii => isWord ascii before == isWord ascii after
  | wordStart ascii => !isWord ascii before && isWord ascii after
  | wordEnd ascii => isWord ascii before && !isWord ascii after
  | wordStartHalf ascii => !isWord ascii before
  | wordEndHalf ascii => !isWord ascii after

end Anchor

end SensorRules.Pattern

namespace SensorRules

/-- A pattern for stretches of text. -/
inductive Pattern where
  /-- Matches the empty stretch. -/
  | empty
  /-- Matches one character of the set. -/
  | set (s : Pattern.CharSet)
  /-- Matches the empty stretch where the anchor holds. -/
  | anchor (a : Pattern.Anchor)
  | append (p q : Pattern)
  | either (p q : Pattern)
  /-- Matches from `least` to `most` stretches of `p` in a row; `none` is no upper limit. -/
  | repeated (p : Pattern) (least : Nat) (most : Option Nat)
deriving DecidableEq, Repr

namespace Pattern

/-- The character before a place. -/
def before (text : List Char) : Nat → Option Char
  | 0 => none
  | i + 1 => text[i]?

/-- The relation composed with itself `n` times. -/
def Times (r : Nat → Nat → Prop) : Nat → Nat → Nat → Prop
  | 0, i, j => i = j
  | n + 1, i, j => ∃ k, r i k ∧ Times r n k j

/-- The pattern matches the stretch of the text from place `i` to place `j`. -/
def Matches (text : List Char) : Pattern → Nat → Nat → Prop
  | empty, i, j => i = j
  | set s, i, j => j = i + 1 ∧ ∃ c, text[i]? = some c ∧ s.contains c
  | anchor a, i, j => i = j ∧ i ≤ text.length ∧ a.holds (before text i) text[i]?
  | append p q, i, j => ∃ k, p.Matches text i k ∧ q.Matches text k j
  | either p q, i, j => p.Matches text i j ∨ q.Matches text i j
  | repeated p least most, i, j =>
    ∃ n, least ≤ n ∧ (∀ m ∈ most, n ≤ m) ∧ Times (p.Matches text) n i j

/-! ### Sets of places -/

/-- The characters around each place of a text whose beginning follows `previous`. -/
def surroundings (previous : Option Char) : List Char → List (Option Char × Option Char)
  | [] => [(previous, none)]
  | c :: cs => (previous, some c) :: surroundings (some c) cs

/-- The places after one character of the set. -/
def advance (text : List Char) (s : CharSet) (marks : List Bool) : List Bool :=
  false :: List.zipWith (fun m c => m && s.contains c) marks text

/-- Those of the places at which the anchor holds. -/
def restrict (text : List Char) (a : Anchor) (marks : List Bool) : List Bool :=
  List.zipWith (fun m (sides : Option Char × Option Char) => m && a.holds sides.1 sides.2) marks
    (surroundings none text)

/-- The places in either set. -/
def join (marks marks' : List Bool) : List Bool :=
  List.zipWith (· || ·) marks marks'

/-- The places reached from `marks` in exactly `n` steps; stops when none is left. -/
def exactly (step : List Bool → List Bool) : Nat → List Bool → List Bool
  | 0, marks => marks
  | n + 1, marks => if marks.any id then exactly step n (step marks) else marks

/-- The places reached from `marks` in at most `n` steps beyond those that lead to `reached`; stops
when a step adds nothing. -/
def within (step : List Bool → List Bool) (marks : List Bool) : Nat → List Bool → List Bool
  | 0, reached => reached
  | n + 1, reached =>
    let next := join marks (step reached)
    if next = reached then reached else within step marks n next

/-- The places that the pattern leads to from the marked ones. A walk of more steps than there are
places repeats a step that stays where it is, and one such step can be left out or put in; so no
more steps than places need to be counted. -/
def reach (text : List Char) : Pattern → List Bool → List Bool
  | empty, marks => marks
  | set s, marks => advance text s marks
  | anchor a, marks => restrict text a marks
  | append p q, marks => q.reach text (p.reach text marks)
  | either p q, marks => join (p.reach text marks) (q.reach text marks)
  | repeated p least most, marks =>
    let places := text.length + 1
    let further := match most with
      | none => places
      | some m => min places (m - least)
    if most.all (least ≤ ·) then
      let start := exactly (p.reach text) (min places least) marks
      within (p.reach text) start further start
    else marks.map fun _ => false

/-- The pattern matches some stretch of the text. -/
def occursIn (p : Pattern) (text : List Char) : Bool :=
  (p.reach text (List.replicate (text.length + 1) true)).any id

end Pattern

end SensorRules
