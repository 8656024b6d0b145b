import DesignHistory.Text.Unprintable

/-!
# Quoted texts

Messages show foreign text in double quotes, with escapes for the quote, the
backslash, the common controls, and every character that would not be visible.
So a message stays on one line and two different texts look different.

## Main definitions

* `Text.escapeChar`: what is written for one character.
* `Text.quote`: the whole text between quotes.
-/

namespace DesignHistory.Text

/-- The hexadecimal digits of a code point, in lower case and without padding. -/
def hexDigits (n : Nat) : List Char := Nat.toDigits 16 n

/-- What a quoted text shows for one character. -/
def escapeChar (c : Char) : List Char :=
  if c = '"' then ['\\', '"']
  else if c = '\\' then ['\\', '\\']
  else if c = '\n' then ['\\', 'n']
  else if c = '\r' then ['\\', 'r']
  else if c = '\t' then ['\\', 't']
  else if c = '\x00' then ['\\', '0']
  else if isUnprintable c then ['\\', 'u', '\x7b'] ++ hexDigits c.toNat ++ ['\x7d']
  else [c]

/-- The text between double quotes, with escapes.  It is the form in which a message shows a text
from outside, so that what is shown is never mistaken for the message. -/
def quote (s : String) : String :=
  String.ofList ('"' :: s.toList.flatMap escapeChar ++ ['"'])

end DesignHistory.Text
