import SensorRules.Pattern.CharSet

/-!
The flags of written patterns.

* `Mode`: what the flags in force change, from ignored case to verbose layout;
* `Mode.setFlag?` and `flags?`: the letters of `(?i-s)` and `(?i-s:...)`;
* `Mode.fold`, `Mode.negate?` and `Mode.dot?`: sets of characters under a mode;
* `Mode.skipLayout`: what verbose layout leaves of a text;
* `Mode.run`: the characters of a kind, up to the first of another kind;
* `Mode.peek?`: the next character, as far as it is looked for in brackets.
-/

namespace SensorRules.Pattern

/-- What the flags in force change. -/
structure Mode where
  ignoreCase : Bool := false
  /-- The anchors for text ends hold at line ends. -/
  multiLine : Bool := false
  /-- The dot matches line ends too. -/
  dotAll : Bool := false
  /-- Lines may end in a carriage return. -/
  crlf : Bool := false
  /-- Named classes, case and word boundaries are those of ASCII. -/
  ascii : Bool := false
  /-- Blanks are layout and `#` begins a comment. -/
  verbose : Bool := false
  /-- Repetitions try few stretches first, and the mark for that turns it round. -/
  lazy : Bool := false
deriving DecidableEq, Repr

namespace Mode

/-- The mode with one flag set or cleared; nothing for a letter that is no flag. -/
def setFlag? (mode : Mode) (value : Bool) : Char → Option Mode
  | 'i' => some { mode with ignoreCase := value }
  | 'm' => some { mode with multiLine := value }
  | 's' => some { mode with dotAll := value }
  | 'R' => some { mode with crlf := value }
  | 'u' => some { mode with ascii := !value }
  | 'x' => some { mode with verbose := value }
  | 'U' => some { mode with lazy := value }
  | _ => none

/-- The set closed under case forms if case is ignored. -/
def fold (mode : Mode) (s : CharSet) : CharSet :=
  if !mode.ignoreCase then s
  else if mode.ascii then s.asciiFolded
  else s.folded

/-- The complement, if asked for. In ASCII mode a complement would reach outside ASCII and is
refused. -/
def negate? (mode : Mode) (negated : Bool) (s : CharSet) : Option CharSet :=
  if !negated then some s
  else if mode.ascii then none
  else some s.negate

/-- The set that the dot stands for; in ASCII mode it would reach outside ASCII and is refused. -/
def dot? (mode : Mode) : Option CharSet :=
  if mode.ascii then none
  else if mode.dotAll then some .all
  else if mode.crlf then some (CharSet.ofChars [('\n', '\n'), ('\r', '\r')]).negate
  else some (CharSet.single '\n').negate

/-- The rest of the text after layout and comments, which only the verbose mode has. -/
def skipLayout (mode : Mode) (cs : List Char) : List Char :=
  if mode.verbose then go false cs else cs
where
  go (comment : Bool) : List Char → List Char
    | [] => []
    | c :: cs =>
      if comment then go (c != '\n') cs
      else if c == '#' then go true cs
      else if Text.isBlank c then go false cs
      else c :: cs

/-- The longest run of characters of a kind, without the layout between them, and the rest of the
text after layout. -/
def run (mode : Mode) (kind : Char → Bool) (cs : List Char) : List Char × List Char :=
  go false cs
where
  go (comment : Bool) : List Char → List Char × List Char
    | [] => ([], [])
    | c :: cs =>
      if comment then go (c != '\n') cs
      else if mode.verbose && c == '#' then go true cs
      else if mode.verbose && Text.isBlank c then go false cs
      else if kind c then ((c :: (go false cs).1), (go false cs).2)
      else ([], c :: cs)

/-- The next character. In verbose mode blanks and the sign that begins a comment are passed over,
but not the comment: its first character other than a blank is taken for the next one. -/
def peek? (mode : Mode) (cs : List Char) : Option Char :=
  if mode.verbose then go false cs else cs.head?
where
  go (comment : Bool) : List Char → Option Char
    | [] => none
    | c :: cs =>
      if Text.isBlank c then go comment cs
      else if !comment && c == '#' then go true cs
      else some c

end Mode

/-- The flags after `(?`, up to and with the colon or bracket that ends them: the new mode, whether
any flag was given, and the end. No letter and no minus sign may come twice, and a flag must follow
the minus sign. -/
def flags? (mode : Mode) (seen : List Char) (cleared dangling : Bool) :
    List Char → Option ((Mode × Bool × Char) × List Char)
  | [] => none
  | c :: cs =>
    if c == ':' || c == ')' then
      if dangling then none else some ((mode, cleared || !seen.isEmpty, c), cs)
    else if c == '-' then
      if cleared then none else flags? mode seen true true cs
    else if seen.contains c then none
    else (mode.setFlag? (!cleared) c).bind fun mode => flags? mode (c :: seen) cleared false cs

end SensorRules.Pattern
