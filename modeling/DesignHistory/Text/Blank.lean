import DesignHistory.Text.CodePoints

/-!
# Blanks

The characters that count as white space in any script, from the Unicode character
database: the ASCII controls and the space that move the place of writing, the next
line, the spaces of fixed widths, and the separators of lines and paragraphs.

## Main definitions

* `Blank.ranges`: closed ranges of code points in increasing order.
* `isBlank`: whether a character lies in one of them.
* `trimWhere`, `trimBlanks`: a text without the characters of a kind around it.
-/

namespace DesignHistory.Text

/-- Closed ranges of code points, in increasing order. -/
def Blank.ranges : List (Nat × Nat) := [
  (0x9, 0xd), (0x20, 0x20), (0x85, 0x85), (0xa0, 0xa0), (0x1680, 0x1680), (0x2000, 0x200a),
  (0x2028, 0x2029), (0x202f, 0x202f), (0x205f, 0x205f), (0x3000, 0x3000)]

/-- Whether a character is white space. -/
def isBlank (c : Char) : Bool := inRanges Blank.ranges c

/-- A text without the characters of a kind around it. -/
def trimWhere (p : Char → Bool) (cs : List Char) : List Char :=
  ((cs.dropWhile p).reverse.dropWhile p).reverse

/-- A text without the blanks around it. -/
def trimBlanks (cs : List Char) : List Char := trimWhere isBlank cs

end DesignHistory.Text
