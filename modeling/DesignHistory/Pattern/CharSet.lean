/-!
# Sets of characters

A set of characters is kept as closed ranges of code points, in increasing order and
with a gap between any two of them, so that equal sets have equal ranges.  Surrogates
do not count: the character behind U+D7FF is U+E000.

## Main definitions

* `CharSet`: a set, and `CharSet.contains`, what is in it.
* `CharSet.ofRanges`: the set of some ranges.
* `CharSet.unions`, `CharSet.union`, `CharSet.compl`, `CharSet.inter`, `CharSet.diff`,
  `CharSet.symmDiff`: the operations on sets.
* `CharSet.foldCase`: a set with the letters of ASCII in both cases.
-/

namespace DesignHistory

/-- A set of characters.  The operations keep the ranges closed, in increasing order and apart from
each other, so that the first and the last of them bound the set. -/
structure CharSet where
  ranges : List (Nat × Nat)
deriving DecidableEq, Repr

namespace CharSet

/-- The largest code point. -/
def maxCodePoint : Nat := 0x10ffff

/-- Whether a character is in a set. -/
def contains (s : CharSet) (c : Char) : Bool :=
  s.ranges.any fun r => r.1 ≤ c.toNat && c.toNat ≤ r.2

/-- The set without characters. -/
def empty : CharSet := ⟨[]⟩

/-- The code point behind another one; surrogates are no characters. -/
def next (n : Nat) : Nat := if n = 0xd7ff then 0xe000 else n + 1

/-- The code point in front of another one. -/
def previous (n : Nat) : Nat := if n = 0xe000 then 0xd7ff else n - 1

/-- Ranges in decreasing order with one more, which does not start before the last one
and is joined with it if they touch. -/
def joinRange (ranges : List (Nat × Nat)) (r : Nat × Nat) : List (Nat × Nat) :=
  match ranges with
  | [] => [r]
  | (low, high) :: rest =>
    if r.1 ≤ next high then (low, max high r.2) :: rest else r :: (low, high) :: rest

/-- The set of the characters in some ranges. -/
def ofRanges (ranges : List (Nat × Nat)) : CharSet :=
  ⟨((ranges.mergeSort fun r s => r.1 ≤ s.1).foldl joinRange []).reverse⟩

/-- The set of one character. -/
def single (c : Char) : CharSet := ⟨[(c.toNat, c.toNat)]⟩

/-! ### Operations -/

/-- The characters in one of several sets. -/
def unions (sets : List CharSet) : CharSet := ofRanges (sets.flatMap ranges)

/-- The characters in one set or in the other. -/
def union (s t : CharSet) : CharSet := ofRanges (s.ranges ++ t.ranges)

/-- Ranges in decreasing order with the one from a code point on to the start of a
range, and the code point behind that range. -/
def skipRange (gaps : List (Nat × Nat) × Nat) (r : Nat × Nat) : List (Nat × Nat) × Nat :=
  (if gaps.2 < r.1 then (gaps.2, previous r.1) :: gaps.1 else gaps.1, next r.2)

/-- The characters that are not in a set.  Surrogates are no characters, and a gap between two
ranges may run over them. -/
def compl (s : CharSet) : CharSet :=
  let (gaps, low) := s.ranges.foldl skipRange ([], 0)
  ⟨(if low ≤ maxCodePoint then (low, maxCodePoint) :: gaps else gaps).reverse⟩

/-- The characters in both sets. -/
def inter (s t : CharSet) : CharSet := (s.compl.union t.compl).compl

/-- The characters in one set that are not in the other. -/
def diff (s t : CharSet) : CharSet := s.inter t.compl

/-- The characters in exactly one of two sets. -/
def symmDiff (s t : CharSet) : CharSet := (s.diff t).union (t.diff s)

/-- The part of a range within another one, moved up by a number of places and down
by another number. -/
def shifted (r : Nat × Nat) (low high up down : Nat) : List (Nat × Nat) :=
  let (a, b) := (max r.1 low, min r.2 high)
  if a ≤ b then [(a + up - down, b + up - down)] else []

/-- A set with the letters of ASCII in both cases.  It is the folding for bytes, and the only one
that is known without tables of all scripts. -/
def foldCase (s : CharSet) : CharSet :=
  ofRanges (s.ranges.flatMap fun r =>
    r :: shifted r 0x41 0x5a 0x20 0 ++ shifted r 0x61 0x7a 0 0x20)

/-! ### Sets with names -/

/-- The decimal digits of ASCII. -/
def digits : CharSet := ofRanges [(0x30, 0x39)]

/-- The white space of ASCII. -/
def spaces : CharSet := ofRanges [(0x09, 0x0d), (0x20, 0x20)]

/-- The letters and digits of ASCII and the underscore. -/
def wordChars : CharSet := ofRanges [(0x30, 0x39), (0x41, 0x5a), (0x5f, 0x5f), (0x61, 0x7a)]

/-- The sets of ASCII characters that have names. -/
def ofName? (name : String) : Option CharSet :=
  match name with
  | "alnum" => some (ofRanges [(0x30, 0x39), (0x41, 0x5a), (0x61, 0x7a)])
  | "alpha" => some (ofRanges [(0x41, 0x5a), (0x61, 0x7a)])
  | "ascii" => some (ofRanges [(0x00, 0x7f)])
  | "blank" => some (ofRanges [(0x09, 0x09), (0x20, 0x20)])
  | "cntrl" => some (ofRanges [(0x00, 0x1f), (0x7f, 0x7f)])
  | "digit" => some digits
  | "graph" => some (ofRanges [(0x21, 0x7e)])
  | "lower" => some (ofRanges [(0x61, 0x7a)])
  | "print" => some (ofRanges [(0x20, 0x7e)])
  | "punct" => some (ofRanges [(0x21, 0x2f), (0x3a, 0x40), (0x5b, 0x60), (0x7b, 0x7e)])
  | "space" => some spaces
  | "upper" => some (ofRanges [(0x41, 0x5a)])
  | "word" => some wordChars
  | "xdigit" => some (ofRanges [(0x30, 0x39), (0x41, 0x46), (0x61, 0x66)])
  | _ => none

end CharSet

end DesignHistory
