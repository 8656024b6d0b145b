import DesignHistory.Text.Hexadecimal

/-!
# Ranges of code points

A property of characters that a standard lists is kept as a table of closed ranges
of code points.  A long table is a text: words with blanks between them, in which code
points are hexadecimal numbers.

## Main definitions

* `inRanges`: whether a character lies in one of the ranges of a table.
* `tableWords`, `readRange`, `rangesOf`: reading a table.
-/

namespace DesignHistory.Text

/-- Whether a character lies in one of several closed ranges. -/
def inRanges (ranges : List (Nat × Nat)) (c : Char) : Bool :=
  ranges.any fun r => r.1 ≤ c.toNat && c.toNat ≤ r.2

/-- The words of a table. -/
def tableWords (s : String) : List (List Char) :=
  (s.toList.splitOnP fun c => c == ' ' || c == '\n').filter (!·.isEmpty)

/-- The range that a word is: a code point, or two with a minus sign between them. -/
def readRange (word : List Char) : Nat × Nat :=
  match word.splitOn '-' with
  | [low, high] => (hexNumber low, hexNumber high)
  | _ => (hexNumber word, hexNumber word)

/-- The ranges of a table. -/
def rangesOf (s : String) : List (Nat × Nat) := (tableWords s).map readRange

end DesignHistory.Text
