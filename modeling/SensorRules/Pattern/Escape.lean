import SensorRules.Number.Whole
import SensorRules.Pattern.Basic
import SensorRules.Pattern.Mode
import SensorRules.Pattern.Property

/-!
Escapes in written patterns.

* `Atom`: what one escape or one plain character stands for;
* `hexEscape?`: characters given by their codes;
* `boundary?`: the word boundaries;
* `propertySet?`: the characters with a property, by its name;
* `escape?`: whatever follows a backslash.
-/

namespace SensorRules.Pattern

open Number (hexDigit?)

/-- What one escape or one plain character stands for. -/
inductive Atom where
  | literal (c : Char)
  | set (s : CharSet)
  | anchor (a : Anchor)

/-- The number written by hexadecimal digits. -/
def hexValue? (cs : List Char) : Option Nat :=
  cs.foldlM (fun n c => (hexDigit? c).map (16 * n + ·)) 0

/-- The character with the code that the digits write, of which there must be one. -/
def hexChar? (cs : List Char) : Option Char := do
  let code ← hexValue? cs
  if cs ≠ [] ∧ code.isValidChar then some (Char.ofNat code) else none

/-- As many hexadecimal digits, without the layout between them. -/
def hexDigits? (mode : Mode) : Nat → List Char → Option (List Char × List Char)
  | 0, cs => some ([], cs)
  | n + 1, cs =>
    match mode.skipLayout cs with
    | [] => none
    | c :: cs =>
      if (hexDigit? c).isSome then
        (hexDigits? mode n cs).map fun (digits, rest) => (c :: digits, rest)
      else none

/-- A character given by its code: in braces, or by exactly `width` digits. In ASCII mode a code of
two digits is a byte and must lie in ASCII. -/
def hexEscape? (mode : Mode) (width : Nat) (cs : List Char) : Option (Atom × List Char) :=
  match mode.skipLayout cs with
  | '{' :: inner =>
    match mode.run (· != '}') inner with
    | (digits, _ :: rest) => (hexChar? digits).map fun c => (.literal c, rest)
    | (_, []) => none
  | cs => do
    let (digits, rest) ← hexDigits? mode width cs
    let c ← hexChar? digits
    if mode.ascii ∧ width = 2 ∧ 0x80 ≤ c.toNat then none
    else some (.literal c, rest)

/-- A backslash before one of these, and before any other ASCII character that is no letter, digit
or angle bracket, takes the character literally. -/
def isEscapable (c : Char) : Bool :=
  c.toNat < 0x80 && !c.isAlphanum && c != '<' && c != '>'

/-- A character that may stand in the name of a word boundary. -/
def isBoundaryNameChar (c : Char) : Bool :=
  c.isAlpha || c == '-'

/-- The boundary after `\b`: plain, or the one named in braces. Braces whose first character cannot
begin a name are left to be read as a repetition. -/
def boundary? (mode : Mode) (cs : List Char) : Option (Atom × List Char) :=
  match cs with
  | '{' :: inner =>
    match mode.run isBoundaryNameChar inner with
    | ([], []) => none
    | ([], _) => some (.anchor (.wordBoundary mode.ascii), cs)
    | (name, '}' :: rest) =>
      match String.ofList name with
      | "start" => some (.anchor (.wordStart mode.ascii), rest)
      | "end" => some (.anchor (.wordEnd mode.ascii), rest)
      | "start-half" => some (.anchor (.wordStartHalf mode.ascii), rest)
      | "end-half" => some (.anchor (.wordEndHalf mode.ascii), rest)
      | _ => none
    | _ => none
  | _ => some (.anchor (.wordBoundary mode.ascii), cs)

/-- A text before and after the first place at which a mark stands in it. -/
def splitAtMark? (mark : List Char) : List Char → Option (List Char × List Char)
  | [] => none
  | c :: cs =>
    if mark.isPrefixOf (c :: cs) then some ([], (c :: cs).drop mark.length)
    else (splitAtMark? mark cs).map fun (front, back) => (c :: front, back)

variable [PropertyTable]

/-- The property that is named in braces: alone, or with a value after a mark, of which `!=` asks
for the characters with another value. The set comes with whether its complement is asked for. -/
def property? (name : List Char) : Option (Bool × CharSet) :=
  match splitAtMark? ['!', '='] name with
  | some (property, value) =>
    (PropertyTable.valued? (String.ofList property) (String.ofList value)).map (true, ·)
  | none =>
    match (splitAtMark? [':'] name).or (splitAtMark? ['='] name) with
    | some (property, value) =>
      (PropertyTable.valued? (String.ofList property) (String.ofList value)).map (false, ·)
    | none => (PropertyTable.named? (String.ofList name)).map (false, ·)

/-- The name of a property after `\p` or `\P`: in braces, or of one letter. -/
def propertyName? (mode : Mode) (cs : List Char) : Option ((Bool × CharSet) × List Char) :=
  match mode.skipLayout cs with
  | [] => none
  | '\\' :: _ => none
  | '{' :: inner =>
    match mode.run (· != '}') inner with
    | (name, _ :: rest) => (property? name).map fun found => (found, rest)
    | (_, []) => none
  | c :: rest => (PropertyTable.named? (String.singleton c)).map fun s => ((false, s), rest)

/-- The set of a property, or its complement. The ASCII mode has no such sets. -/
def propertySet? (mode : Mode) (negated : Bool) (cs : List Char) : Option (Atom × List Char) :=
  if mode.ascii then none
  else do
    let ((other, s), rest) ← propertyName? mode cs
    let s ← mode.negate? (negated != other) (mode.fold s)
    some (.set s, rest)

/-- What follows a backslash. -/
def escape? (mode : Mode) : List Char → Option (Atom × List Char)
  | [] => none
  | c :: cs =>
    let set (plain ascii : CharSet) (negated : Bool) : Option (Atom × List Char) :=
      (mode.negate? negated (if mode.ascii then ascii else plain)).map fun s => (.set s, cs)
    match c with
    | 'x' => hexEscape? mode 2 cs
    | 'u' => hexEscape? mode 4 cs
    | 'U' => hexEscape? mode 8 cs
    | 'p' => propertySet? mode false cs
    | 'P' => propertySet? mode true cs
    | 'd' => set .digit (.range '0' '9') false
    | 'D' => set .digit (.range '0' '9') true
    | 's' => set .blank .asciiBlank false
    | 'S' => set .blank .asciiBlank true
    | 'w' => set .word .asciiWord false
    | 'W' => set .word .asciiWord true
    | 'a' => some (.literal '\x07', cs)
    | 'f' => some (.literal '\x0C', cs)
    | 't' => some (.literal '\t', cs)
    | 'n' => some (.literal '\n', cs)
    | 'r' => some (.literal '\r', cs)
    | 'v' => some (.literal '\x0B', cs)
    | 'A' => some (.anchor .textStart, cs)
    | 'z' => some (.anchor .textEnd, cs)
    | 'b' => boundary? mode cs
    | 'B' => some (.anchor (.notWordBoundary mode.ascii), cs)
    | '<' => some (.anchor (.wordStart mode.ascii), cs)
    | '>' => some (.anchor (.wordEnd mode.ascii), cs)
    | _ => if isEscapable c then some (.literal c, cs) else none

end SensorRules.Pattern
