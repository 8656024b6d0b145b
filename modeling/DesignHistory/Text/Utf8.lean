/-!
# Characters as bytes

A character is a sequence of one to four bytes in UTF-8, and a range of characters is
a number of sequences of ranges of bytes.

## Main definitions

* `Utf8.encode`: the bytes of a code point.
* `Utf8.sequences`: the sequences of ranges of bytes for a range of code points.

Two code points are the ends of one sequence if they have the same number of bytes,
and if behind the first byte in which they differ one has all the smallest bytes and
the other one all the largest.  Any range is cut into such pieces, in order.
-/

namespace DesignHistory.Text.Utf8

/-- The bytes of a code point. -/
def encode (n : Nat) : List Nat :=
  if n < 0x80 then [n]
  else if n < 0x800 then [0xc0 + n / 0x40, 0x80 + n % 0x40]
  else if n < 0x10000 then [0xe0 + n / 0x1000, 0x80 + n / 0x40 % 0x40, 0x80 + n % 0x40]
  else
    [0xf0 + n / 0x40000, 0x80 + n / 0x1000 % 0x40, 0x80 + n / 0x40 % 0x40, 0x80 + n % 0x40]

/-- Pieces of ranges. -/
def refine (cut : Nat → Nat → List (Nat × Nat)) (ranges : List (Nat × Nat)) : List (Nat × Nat) :=
  ranges.flatMap fun (low, high) => cut low high

/-- A range of code points without the surrogates. -/
def withoutSurrogates (low high : Nat) : List (Nat × Nat) :=
  [(low, min high 0xd7ff), (max low 0xe000, high)].filter fun r => r.1 ≤ r.2

/-- The pieces of a range that lie within the classes of equal numbers of bytes. -/
def byLength (low high : Nat) : List (Nat × Nat) :=
  [(0x0, 0x7f), (0x80, 0x7ff), (0x800, 0xffff), (0x10000, 0x10ffff)].filterMap fun (a, b) =>
    if max low a ≤ min high b then some (max low a, min high b) else none

/-- The pieces of a range that starts with a block, of which each lies within a block
or ends with one; a block has `size` code points. -/
def alignEnd (size low high : Nat) : List (Nat × Nat) :=
  if low / size = high / size ∨ (high + 1) % size = 0 then [(low, high)]
  else [(low, high / size * size - 1), (high / size * size, high)]

/-- The pieces of a range of which each lies within a block or consists of blocks. -/
def align (size low high : Nat) : List (Nat × Nat) :=
  if low / size = high / size ∨ low % size = 0 then alignEnd size low high
  else
    let start := (low / size + 1) * size
    (low, start - 1) :: alignEnd size start high

/-- The pieces of a range of equal numbers of bytes that are one sequence each.  A single
byte can be any. -/
def alignAll (low high : Nat) : List (Nat × Nat) :=
  if high < 0x80 then [(low, high)]
  else refine (align 0x40000) (refine (align 0x1000) (align 0x40 low high))

/-- The sequences of ranges of bytes for a range of code points.  A range is cut where the number of
bytes changes and where a leading byte stops being followed by all others. -/
def sequences (low high : Nat) : List (List (Nat × Nat)) :=
  (refine alignAll (refine byLength (withoutSurrogates low high))).map fun (low, high) =>
    (encode low).zip (encode high)

end DesignHistory.Text.Utf8
