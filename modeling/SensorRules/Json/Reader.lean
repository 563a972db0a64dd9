import SensorRules.Json.Basic
import SensorRules.Number.Whole

/-!
The reader of JSON texts. Each function reads one part at the beginning of a text and returns it
with the rest; the nesting of values is bounded by the length of the text.

* `Json.number?`: digits without a leading zero, with sign, fraction and exponent where written;
* `Json.pieces?` and `Json.joinPieces`: the inside of a string, with escapes taken as they come, and
  the text that the pieces make;
* `Json.value?`, `Json.items?`, `Json.members?`: values and the insides of arrays and objects;
* `Json.read?`: a whole text.
-/

namespace SensorRules.Json

open Number (hexDigit?)

/-- The white space of JSON. -/
def isSpace (c : Char) : Bool :=
  c == ' ' || c == '\n' || c == '\t' || c == '\r'

/-- The rest after white space. -/
def skipSpace (cs : List Char) : List Char :=
  cs.dropWhile isSpace

/-! ### Numbers -/

/-- The longest run of digits and what follows it. -/
def digitRun (cs : List Char) : List Char × List Char :=
  (cs.takeWhile Char.isDigit, cs.dropWhile Char.isDigit)

/-- The digits before the point: a zero alone or digits that do not begin with zero. -/
def wholePart? (cs : List Char) : Option (List Char × List Char) :=
  match cs with
  | '0' :: rest => some (['0'], rest)
  | _ =>
    match digitRun cs with
    | ([], _) => none
    | (digits, rest) => some (digits, rest)

/-- A point and at least one digit; nothing if there is no point. -/
def fractionPart? : List Char → Option (List Char × List Char)
  | '.' :: cs =>
    match digitRun cs with
    | ([], _) => none
    | (digits, rest) => some ('.' :: digits, rest)
  | cs => some ([], cs)

/-- The sign of an exponent and the rest. -/
def exponentSign : List Char → List Char × List Char
  | '+' :: cs => (['+'], cs)
  | '-' :: cs => (['-'], cs)
  | cs => ([], cs)

/-- The mark of an exponent, a sign and at least one digit; nothing if there is no mark. -/
def exponentPart? : List Char → Option (List Char × List Char)
  | c :: cs =>
    if c = 'e' ∨ c = 'E' then
      let (sign, rest) := exponentSign cs
      match digitRun rest with
      | ([], _) => none
      | (digits, rest) => some (c :: sign ++ digits, rest)
    else some ([], c :: cs)
  | [] => some ([], [])

/-- The sign of a number and the rest. -/
def minusSign : List Char → List Char × List Char
  | '-' :: cs => (['-'], cs)
  | cs => ([], cs)

/-- A number. -/
def number? (cs : List Char) : Option (Json × List Char) := do
  let (sign, rest) := minusSign cs
  let (whole, rest) ← wholePart? rest
  let (fraction, rest) ← fractionPart? rest
  let (exponent, rest) ← exponentPart? rest
  let literal := sign ++ whole ++ fraction ++ exponent
  let magnitude : Int := Number.ofDigits whole
  if fraction ≠ [] ∨ exponent ≠ [] ∨ (sign ≠ [] ∧ magnitude = 0) then
    some (.real (String.ofList literal), rest)
  else some (.int (if sign = [] then magnitude else -magnitude), rest)

/-! ### Strings -/

/-- A piece of a string: a character, or the half of one that an escape names by a surrogate. -/
inductive Piece where
  | char (c : Char)
  | half (code : Nat)
deriving DecidableEq, Repr

/-- The first half of a surrogate pair. -/
def isLeading (code : Nat) : Bool :=
  0xD800 ≤ code && code < 0xDC00

/-- The second half of a surrogate pair. -/
def isTrailing (code : Nat) : Bool :=
  0xDC00 ≤ code && code < 0xE000

/-- The piece with a code of four hexadecimal digits. -/
def Piece.ofCode (code : Nat) : Piece :=
  if isLeading code || isTrailing code then .half code else .char (Char.ofNat code)

/-- The characters that the pieces make: two halves in the right order make one. -/
def joinPieces : List Piece → Option (List Char)
  | [] => some []
  | .char c :: ps => (joinPieces ps).map (c :: ·)
  | .half a :: .half b :: ps =>
    if isLeading a && isTrailing b then
      let c := Char.ofNat (0x10000 + (a - 0xD800) * 0x400 + (b - 0xDC00))
      (joinPieces ps).map (c :: ·)
    else none
  | .half _ :: _ => none

/-- The number with four hexadecimal digits. -/
def hexCode? (a b c d : Char) : Option Nat := do
  let a ← hexDigit? a
  let b ← hexDigit? b
  let c ← hexDigit? c
  let d ← hexDigit? d
  some (((a * 16 + b) * 16 + c) * 16 + d)

/-- The character that a letter after a backslash names. -/
def escaped? : Char → Option Char
  | '"' => some '"'
  | '\\' => some '\\'
  | '/' => some '/'
  | 'b' => some '\x08'
  | 'f' => some '\x0C'
  | 'n' => some '\n'
  | 'r' => some '\r'
  | 't' => some '\t'
  | _ => none

/-- The inside of a string up to and with the quote that ends it. Control characters must be
escaped. -/
def pieces? : List Char → Option (List Piece × List Char)
  | [] => none
  | '"' :: rest => some ([], rest)
  | '\\' :: 'u' :: a :: b :: c :: d :: rest => do
    let code ← hexCode? a b c d
    let (ps, rest) ← pieces? rest
    some (Piece.ofCode code :: ps, rest)
  | '\\' :: c :: rest => do
    let c ← escaped? c
    let (ps, rest) ← pieces? rest
    some (.char c :: ps, rest)
  | c :: rest =>
    if c.toNat < 0x20 ∨ c = '\\' then none
    else do
      let (ps, rest) ← pieces? rest
      some (.char c :: ps, rest)

/-- A string after its opening quote. -/
def string? (cs : List Char) : Option (Option String × List Char) :=
  (pieces? cs).map fun (ps, rest) => ((joinPieces ps).map String.ofList, rest)

/-! ### Values -/

/-- The inside of an array from an item on, given a reader of values. -/
def items? (value : List Char → Option (Json × List Char)) :
    Nat → List Char → Option (List Json × List Char)
  | 0, _ => none
  | fuel + 1, cs => do
    let (v, rest) ← value cs
    match skipSpace rest with
    | ',' :: rest =>
      let (vs, rest) ← items? value fuel rest
      some (v :: vs, rest)
    | ']' :: rest => some ([v], rest)
    | _ => none

/-- The inside of an object from a member on, given a reader of values. -/
def members? (value : List Char → Option (Json × List Char)) :
    Nat → List Char → Option (List (Option String × Json) × List Char)
  | 0, _ => none
  | fuel + 1, cs =>
    match skipSpace cs with
    | '"' :: rest => do
      let (key, rest) ← string? rest
      match skipSpace rest with
      | ':' :: rest =>
        let (v, rest) ← value rest
        match skipSpace rest with
        | ',' :: rest =>
          let (ms, rest) ← members? value fuel rest
          some ((key, v) :: ms, rest)
        | '\x7D' :: rest => some ([(key, v)], rest)
        | _ => none
      | _ => none
    | _ => none

/-- A value, with white space before it. -/
def value? : Nat → List Char → Option (Json × List Char)
  | 0, _ => none
  | fuel + 1, cs =>
    match skipSpace cs with
    | 'n' :: 'u' :: 'l' :: 'l' :: rest => some (.null, rest)
    | 't' :: 'r' :: 'u' :: 'e' :: rest => some (.bool true, rest)
    | 'f' :: 'a' :: 'l' :: 's' :: 'e' :: rest => some (.bool false, rest)
    | '"' :: rest => (string? rest).map fun (s, rest) => (.str s, rest)
    | '[' :: rest =>
      match skipSpace rest with
      | ']' :: rest => some (.arr [], rest)
      | rest => (items? (value? fuel) (fuel + 1) rest).map fun (vs, rest) => (.arr vs, rest)
    | '\x7B' :: rest =>
      match skipSpace rest with
      | '\x7D' :: rest => some (.obj [], rest)
      | rest => (members? (value? fuel) (fuel + 1) rest).map fun (ms, rest) => (.obj ms, rest)
    | cs => number? cs

/-- The value that a text writes, with nothing but white space around it. -/
def read? (s : String) : Option Json :=
  let cs := s.toList
  match value? (cs.length + 1) cs with
  | some (v, rest) => if skipSpace rest = [] then some v else none
  | none => none

end SensorRules.Json
