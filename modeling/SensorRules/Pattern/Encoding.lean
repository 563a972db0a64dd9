/-!
Characters as bytes. The encoding is UTF-8; a range of characters becomes sequences of byte ranges,
each of which stands for all encodings that take one byte from every range.

* `encode`: the bytes of a code point;
* `byteSequences`: the sequences for a range of code points, in ascending order.

Bytes after the first carry six bits each. A range whose ends agree above the last `6 * k` bits, and
which begins and ends with whole blocks below that, is one sequence; other ranges are cut at the
bounds of their blocks, small blocks first.
-/

namespace SensorRules.Pattern

/-- The bytes of a code point. -/
def encode (code : Nat) : List Nat :=
  let low (bits : Nat) : Nat := 0x80 + (code >>> bits) % 64
  if code < 0x80 then [code]
  else if code < 0x800 then [0xC0 + (code >>> 6), low 0]
  else if code < 0x10000 then [0xE0 + (code >>> 12), low 6, low 0]
  else [0xF0 + (code >>> 18), low 12, low 6, low 0]

/-- The ranges in which all encodings have one length; the surrogates lie in none. -/
def evenRanges : List (Nat × Nat) :=
  [(0, 0x7F), (0x80, 0x7FF), (0x800, 0xD7FF), (0xE000, 0xFFFF), (0x10000, 0x10FFFF)]

/-- Cuts a range at the first and the last bound of a block of `size` code points within it; `inner`
goes on with the whole blocks between. A range within one block stays as it is. -/
def cutBlocks (size : Nat) (inner : Nat → Nat → List (Nat × Nat)) (first last : Nat) :
    List (Nat × Nat) :=
  if first / size = last / size then [(first, last)]
  else
    let start := (first + size - 1) / size * size
    let stop := (last + 1) / size * size
    let before := if first < start then [(first, start - 1)] else []
    let after := if stop ≤ last then [(stop, last)] else []
    before ++ (if start < stop then inner start (stop - 1) else []) ++ after

/-- Cuts a range into such as are one sequence each. -/
def evenBlocks : Nat → Nat → List (Nat × Nat) :=
  cutBlocks (1 <<< 6) (cutBlocks (1 <<< 12) (cutBlocks (1 <<< 18) fun first last => [(first, last)]))

/-- The sequences of byte ranges for a range of code points. -/
def byteSequences (r : Nat × Nat) : List (List (Nat × Nat)) :=
  evenRanges.flatMap fun even =>
    let first := max r.1 even.1
    let last := min r.2 even.2
    if last < first then []
    else if last < 0x80 then [[(first, last)]]
    else (evenBlocks first last).map fun block => (encode block.1).zip (encode block.2)

end SensorRules.Pattern
