import SensorRules.Pattern.Bracket
import SensorRules.Pattern.Part
import SensorRules.Text.Alphabetic

/-!
The written form of patterns: a reader that works from left to right, one function for each part of
the grammar, each returning what it read with the rest of the text.

* `bounds?` and `repetitions?`: the repetitions after a part;
* `opening?` and `groupName?`: the beginnings of groups;
* `alternatives?`, `sequence?`, `item?`: choices, sequences and single parts with their repetitions;
* `Pattern.read?`: a whole text as a pattern;
* `Pattern.Compiler`: engines for patterns, of which this reader is one;
* `Pattern.wholeValue?`: the pattern made of a literal between anchors, `^(?:` and `)$`.

There are no back-references and no conditions on what lies ahead or behind.
-/

namespace SensorRules.Pattern

/-- What has been read so far decides: the mode, the names of groups, none of which may come twice,
and the number of groups that are remembered. -/
structure Scope where
  mode : Mode := {}
  names : List (List Char) := []
  groups : Nat := 0

/-! ### Repetition -/

/-- A count in decimal, of 32 bits. -/
def count? (cs : List Char) : Option (Nat × List Char) :=
  let digits := cs.takeWhile Char.isDigit
  let n := Number.ofDigits digits
  if digits ≠ [] ∧ n < Number.word32 then some (n, cs.drop digits.length) else none

/-- The bounds in braces, after the opening one: `n`, `n,` or `n,m` with `n ≤ m`. -/
def bounds? (mode : Mode) (cs : List Char) : Option ((Nat × Option Nat) × List Char) := do
  let (least, rest) ← count? (mode.skipLayout cs)
  match mode.skipLayout rest with
  | '}' :: rest => some ((least, some least), rest)
  | ',' :: rest =>
    match mode.skipLayout rest with
    | '}' :: rest => some ((least, none), rest)
    | rest => do
      let (most, rest) ← count? rest
      match mode.skipLayout rest with
      | '}' :: rest => if least ≤ most then some ((least, some most), rest) else none
      | _ => none
  | _ => none

/-- Whether a repetition is lazy, which a question mark turns round, with the rest of the text. -/
def laziness (mode : Mode) : List Char → Bool × List Char
  | '?' :: cs => (!mode.lazy, cs)
  | cs => (mode.lazy, cs)

/-- The characters that begin a repetition. -/
def beginsRepetition : List Char → Bool
  | '?' :: _ | '*' :: _ | '+' :: _ | '{' :: _ => true
  | _ => false

/-- All repetitions written after a part; each repeats what stands before it. -/
def repetitions? (mode : Mode) : Nat → Part → List Char → Option (Part × List Char)
  | 0, _, _ => none
  | fuel + 1, p, cs =>
    let go (least : Nat) (most : Option Nat) (rest : List Char) : Option (Part × List Char) :=
      let (lazy, rest) := laziness mode rest
      repetitions? mode fuel (p.repeating least most lazy) rest
    match mode.skipLayout cs with
    | '?' :: rest => go 0 (some 1) rest
    | '*' :: rest => go 0 none rest
    | '+' :: rest => go 1 none rest
    | '{' :: rest => do
      let ((least, most), rest) ← bounds? mode rest
      go least most (mode.skipLayout rest)
    | rest => some (p, rest)

/-! ### Groups, sequences and choices -/

/-- What stands after the opening bracket of a group. -/
inductive Opening where
  /-- The flags of a directive, in force from here to the end of the group around it. -/
  | directive (mode : Mode)
  /-- A group to be read in the given mode, whose stretch is not remembered. -/
  | plain (mode : Mode)
  /-- A group whose stretch is remembered, by its number and perhaps by a name. -/
  | remembered (name : Option (List Char))

/-- A character of the name of a group: a letter or low line first, then also numbers, points and
square brackets. -/
def isNameChar (first : Bool) (c : Char) : Bool :=
  if first then c == '_' || Text.isAlphabetic c
  else c == '_' || c == '.' || c == '[' || c == ']' || Text.isAlphanumeric c

/-- The name of a group, after the opening angle bracket. -/
def groupName? (cs : List Char) : Option (List Char × List Char) :=
  let name := cs.takeWhile (· != '>')
  match name, cs.drop name.length with
  | c :: more, _ :: rest =>
    if isNameChar true c && more.all (isNameChar false) then some (name, rest) else none
  | _, _ => none

/-- What follows an opening bracket up to the inside of the group. Conditions on what lies ahead or
behind are refused, and so are brackets with a question mark and nothing else. -/
def opening? (mode : Mode) (cs : List Char) : Option (Opening × List Char) :=
  match mode.skipLayout cs with
  | '?' :: '=' :: _ | '?' :: '!' :: _ | '?' :: '<' :: '=' :: _ | '?' :: '<' :: '!' :: _ => none
  | '?' :: 'P' :: '<' :: cs | '?' :: '<' :: cs =>
    (groupName? cs).map fun (name, rest) => (.remembered (some name), rest)
  | '?' :: cs =>
    match flags? mode [] false false cs with
    | some ((_, false, ')'), _) => none
    | some ((mode, _, ')'), rest) => some (.directive mode, rest)
    | some ((mode, _, _), rest) => some (.plain mode, rest)
    | none => none
  | cs => some (.remembered none, cs)

/-- The part that one escape or plain character outside brackets stands for. -/
def Atom.toPart (mode : Mode) : Atom → Part
  | .literal c => .ofSet mode.ascii (mode.fold (.single c)) 0
  | .set s => .ofSet mode.ascii s 0
  | .anchor a => .ofAnchor a

/-- A part other than a group. -/
def simpleItem? [PropertyTable] (mode : Mode) : List Char → Option (Part × List Char)
  | [] => none
  | '\\' :: cs => (escape? mode cs).map fun (atom, rest) => (atom.toPart mode, rest)
  | '[' :: cs =>
    (class? mode cs).map fun ((s, depth), rest) => (.ofSet mode.ascii s depth, rest)
  | '.' :: cs => mode.dot?.map fun s => (.ofSet mode.ascii s 0, cs)
  | '^' :: cs => some (.ofAnchor (if mode.multiLine then .lineStart mode.crlf else .textStart), cs)
  | '$' :: cs => some (.ofAnchor (if mode.multiLine then .lineEnd mode.crlf else .textEnd), cs)
  | c :: cs =>
    if beginsRepetition (c :: cs) then none else some ((Atom.literal c).toPart mode, cs)

variable [PropertyTable]

mutual

/-- The branches of a choice up to a closing bracket or the end of the text. -/
def alternatives? : Nat → Scope → List Char → Option ((List Part × Scope) × List Char)
  | 0, _, _ => none
  | fuel + 1, scope, cs => do
    let ((ps, scope), rest) ← sequence? fuel scope cs
    match rest with
    | '|' :: rest =>
      let ((qs, scope), rest) ← alternatives? fuel scope rest
      some ((.inOrder ps :: qs, scope), rest)
    | _ => some (([.inOrder ps], scope), rest)

/-- The parts of a sequence up to a bar, a closing bracket or the end of the text. -/
def sequence? : Nat → Scope → List Char → Option ((List Part × Scope) × List Char)
  | 0, _, _ => none
  | fuel + 1, scope, cs =>
    match scope.mode.skipLayout cs with
    | [] => some (([], scope), [])
    | '|' :: rest => some (([], scope), '|' :: rest)
    | ')' :: rest => some (([], scope), ')' :: rest)
    | cs => do
      let ((p, scope), rest) ← item? fuel scope cs
      let ((ps, scope), rest) ← sequence? fuel scope rest
      some ((p :: ps, scope), rest)

/-- One part with its repetitions, or a directive, which nothing may repeat. -/
def item? : Nat → Scope → List Char → Option ((Part × Scope) × List Char)
  | 0, _, _ => none
  | fuel + 1, scope, '(' :: cs => do
    match ← opening? scope.mode cs with
    | (.directive mode, rest) =>
      if beginsRepetition (mode.skipLayout rest) then none
      else some ((.empty, { scope with mode }), rest)
    | (.plain mode, rest) => group? fuel none scope { scope with mode } rest
    | (.remembered name, rest) =>
      if name.any scope.names.contains then none
      else
        let number := scope.groups + 1
        group? fuel (some number) scope ⟨scope.mode, name.toList ++ scope.names, number⟩ rest
  | _ + 1, scope, cs => do
    let (p, rest) ← simpleItem? scope.mode cs
    let (p, rest) ← repetitions? scope.mode (rest.length + 1) p rest
    some ((p, scope), rest)

/-- The inside of a group, read in the scope `inner`, its closing bracket and its repetitions; then
the mode is again that of `outer`. -/
def group? : Nat → Option Nat → Scope → Scope → List Char → Option ((Part × Scope) × List Char)
  | 0, _, _, _, _ => none
  | fuel + 1, number, outer, inner, cs => do
    let ((ps, inner), rest) ← alternatives? fuel inner cs
    match rest with
    | ')' :: rest =>
      let p := (Part.oneOf ps).group number
      let (p, rest) ← repetitions? outer.mode (rest.length + 1) p rest
      some ((p, { inner with mode := outer.mode }), rest)
    | _ => none

end

/-- Reads a whole text as a part. Every character takes at most four nested readings. -/
def readPart? (text : List Char) : Option Part :=
  match alternatives? (4 * text.length + 4) {} text with
  | some ((ps, _), []) => some (.oneOf ps)
  | _ => none

/-- Reads a whole text as a pattern. One that nests too deep or is too large is refused. -/
def read? (text : List Char) : Option Pattern :=
  ((readPart? text).filter Part.admitted).map Part.pattern

/-! ### Patterns for whole values -/

/-- An engine for patterns: what it takes, and which pattern it makes of it. -/
class Compiler where
  compile? : List Char → Option Pattern

/-- The engine in use: patterns are read as they are here. -/
instance Compiler.standard : Compiler where
  compile? := read?

/-- The pattern for whole values: the literal as the inside of a group, put between the anchors for
the two ends of a text. The literal is put in as it is, so brackets in it may close that group. -/
def wholeValue? [Compiler] (literal : String) : Option Pattern :=
  Compiler.compile? ("^(?:".toList ++ literal.toList ++ ")$".toList)

end SensorRules.Pattern
