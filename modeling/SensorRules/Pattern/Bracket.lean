import SensorRules.Pattern.Escape

/-!
Bracketed classes in written patterns, such as `[a-z_]`, `[^\d]` or `[\w&&[^a]]`.

* `Operand`: a set as far as it has been read, with the way it is written;
* `ClassOp`: the set operations;
* `namedClass?`, `classRange?`: the items of a class;
* `classItems?`: the inside of brackets, with nested brackets and the set operations;
* `class?`: a class with the depth to which it nests.
-/

namespace SensorRules.Pattern

/-- What has been read of a class, or of one side of an operation in it. -/
structure Operand where
  set : CharSet := .empty
  /-- The number of items that it is written with. -/
  items : Nat := 0
  /-- How deep the deepest item nests. -/
  deepest : Nat := 0

namespace Operand

/-- One more item. -/
def add (o : Operand) (s : CharSet) (depth : Nat) : Operand :=
  ⟨o.set.union s, o.items + 1, max o.deepest depth⟩

/-- How deep the operand nests; several items are one level more. -/
def depth (o : Operand) : Nat :=
  if 2 ≤ o.items then o.deepest + 1 else o.deepest

end Operand

/-- The operations between the parts of a class; all bind alike, from the left. -/
inductive ClassOp where
  | inter
  | diff
  | symmDiff

/-- The parts before and after an operation, put together; case is settled on each side first. -/
def ClassOp.apply (mode : Mode) (op : ClassOp) (s t : CharSet) : CharSet :=
  let s := mode.fold s
  let t := mode.fold t
  match op with
  | .inter => s.inter t
  | .diff => s.diff t
  | .symmDiff => s.symmDiff t

/-- An operation that waits for its right side: the left side with the depth to which it nests. -/
structure Waiting where
  op : ClassOp
  left : CharSet
  depth : Nat

/-- Applies the operation that waits for its right side, if there is one: the set and the depth to
which it nests. -/
def settle (mode : Mode) (waiting : Option Waiting) (right : Operand) : CharSet × Nat :=
  match waiting with
  | none => (right.set, right.depth)
  | some w => (w.op.apply mode w.left right.set, max w.depth right.depth + 1)

/-- Makes an operation wait for what comes after it. -/
def await (mode : Mode) (op : ClassOp) (waiting : Option Waiting) (right : Operand) :
    Option Waiting :=
  let (left, depth) := settle mode waiting right
  some ⟨op, left, depth⟩

/-- A class of ASCII characters by name: `[:alpha:]`, or `[:^alpha:]` for its complement. The text
begins after the bracket. -/
def namedClass? (mode : Mode) : List Char → Option (Option CharSet × List Char)
  | ':' :: cs =>
    let negated := cs.head? == some '^'
    let cs := if negated then cs.drop 1 else cs
    let name := cs.takeWhile (· != ':')
    match cs.drop name.length with
    | ':' :: ']' :: rest =>
      (CharSet.named? (String.ofList name)).map fun s =>
        (mode.negate? negated (mode.fold s), rest)
    | _ => none
  | _ => none

/-- One character or escape within a class. -/
def classAtom? [PropertyTable] (mode : Mode) : List Char → Option (Atom × List Char)
  | [] => none
  | '\\' :: cs => escape? mode cs
  | c :: cs => some (.literal c, cs)

/-- A character that may bound a range: in ASCII mode, only one of ASCII. -/
def classLiteral? (mode : Mode) : Atom → Option Char
  | .literal c => if mode.ascii ∧ 0x80 ≤ c.toNat then none else some c
  | _ => none

/-- A minus sign here makes a range, unless it ends the class or is doubled. -/
def beginsRange (mode : Mode) : List Char → Bool
  | '-' :: cs => mode.peek? cs != some ']' && mode.peek? cs != some '-'
  | _ => false

/-- A single character, an escape or a range. -/
def classRange? [PropertyTable] (mode : Mode) (cs : List Char) : Option (CharSet × List Char) := do
  let (first, rest) ← classAtom? mode cs
  let rest := mode.skipLayout rest
  if beginsRange mode rest then
    let (last, rest) ← classAtom? mode (mode.skipLayout (rest.drop 1))
    let a ← classLiteral? mode first
    let b ← classLiteral? mode last
    if a ≤ b then some (.range a b, rest) else none
  else
    match first with
    | .set s => some (s, rest)
    | .anchor _ => none
    | .literal _ => (classLiteral? mode first).map fun c => (.single c, rest)

/-- The minus signs at the beginning of a class stand for themselves. -/
def leadingMinus (mode : Mode) : Nat → List Char → Operand → Operand × List Char
  | fuel + 1, '-' :: cs, o => leadingMinus mode fuel (mode.skipLayout cs) (o.add (.single '-') 0)
  | _, cs, o => (o, cs)

/-- The beginning of a class, after the bracket: whether it is a complement, and what stands for
itself there, minus signs or else a closing bracket. -/
def classStart (mode : Mode) (cs : List Char) : Bool × Operand × List Char :=
  let cs := mode.skipLayout cs
  let negated := cs.head? == some '^'
  let cs := if negated then mode.skipLayout (cs.drop 1) else cs
  let (o, rest) := leadingMinus mode cs.length cs {}
  match o.items, rest with
  | 0, ']' :: rest => (negated, o.add (.single ']') 0, rest)
  | _, rest => (negated, o, rest)

/-- The inside of a class up to its closing bracket: `waiting` is an operation with its left side
and `o` what has been read of its right side. The set comes with the depth to which its brackets,
operations and rows of items nest. -/
def classItems? [PropertyTable] (mode : Mode) (negated : Bool) :
    Nat → Option Waiting → Operand → List Char → Option ((CharSet × Nat) × List Char)
  | 0, _, _, _ => none
  | fuel + 1, waiting, o, cs =>
    match mode.skipLayout cs with
    | [] => none
    | ']' :: rest =>
      let (s, depth) := settle mode waiting o
      (mode.negate? negated (mode.fold s)).map fun s => ((s, depth + 1), rest)
    | '&' :: '&' :: rest => classItems? mode negated fuel (await mode .inter waiting o) {} rest
    | '-' :: '-' :: rest => classItems? mode negated fuel (await mode .diff waiting o) {} rest
    | '~' :: '~' :: rest => classItems? mode negated fuel (await mode .symmDiff waiting o) {} rest
    | '[' :: cs =>
      match namedClass? mode cs with
      | some (none, _) => none
      | some (some t, rest) => classItems? mode negated fuel waiting (o.add t 0) rest
      | none => do
        let (inner, start, rest) := classStart mode cs
        let ((t, depth), rest) ← classItems? mode inner fuel none start rest
        classItems? mode negated fuel waiting (o.add t depth) rest
    | cs => do
      let (t, rest) ← classRange? mode cs
      classItems? mode negated fuel waiting (o.add t 0) rest

/-- A class, after its opening bracket, with the depth to which it nests. -/
def class? [PropertyTable] (mode : Mode) (cs : List Char) : Option ((CharSet × Nat) × List Char) :=
  let (negated, o, rest) := classStart mode cs
  classItems? mode negated (rest.length + 1) none o rest

end SensorRules.Pattern
