import DesignHistory.Text.Hexadecimal

/-!
# Percent encoding

A text may stand for bytes, those of its own UTF-8 form except that a percent sign
with two hexadecimal digits is the byte of that number.  The bytes are a text again
if they are valid UTF-8.

## Main definitions

* `Percent.bytes`: the bytes that a text stands for.
* `Percent.decode?`: the text that they are, if they are one.
* `Percent.pairs`: the names and values of an encoded form.
-/

namespace DesignHistory.Text.Percent

/-- The bytes of the UTF-8 form of a character. -/
def utf8 (c : Char) : List UInt8 := (String.singleton c).toUTF8.toList

/-- The bytes that a text stands for; a percent sign without two digits is itself. -/
def bytes : List Char → List UInt8
  | '%' :: a :: b :: cs =>
    match hexValue? a, hexValue? b with
    | some high, some low => UInt8.ofNat (16 * high + low) :: bytes cs
    | _, _ => utf8 '%' ++ bytes (a :: b :: cs)
  | c :: cs => utf8 c ++ bytes cs
  | [] => []

/-- The text that an encoded text stands for, none if it is not valid UTF-8. -/
def decode? (cs : List Char) : Option String := String.fromUTF8? (bytes cs).toByteArray

/-! ### Forms -/

/-- The text that a part of a form stands for: a plus sign is a space, and a part
that is not valid UTF-8 becomes the replacement character. -/
def decodePart (cs : List Char) : String :=
  (decode? (cs.map fun c => if c = '+' then ' ' else c)).getD "\ufffd"

/-- The name and the value of a part of a form, the value being what follows the
first equals sign. -/
def readPair (cs : List Char) : String × String :=
  (decodePart (cs.takeWhile (· != '=')), decodePart ((cs.dropWhile (· != '=')).drop 1))

/-- The names and values of a form, whose parts are separated by ampersands. -/
def pairs (cs : List Char) : List (String × String) :=
  ((cs.splitOn '&').filter (!·.isEmpty)).map readPair

end DesignHistory.Text.Percent
