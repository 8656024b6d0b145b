import DesignHistory.Json
import DesignHistory.Text.Decimal

/-!
# JSON text

The compact written form of a JSON value: no blanks, members in their order,
escapes for the quote, the backslash and the controls.

## Main definitions

* `Json.quote`: a text between quotes.
* `Json.realText`: a number that is no integer.
* `Json.render`: the written form.
-/

namespace DesignHistory.Json

/-- A hexadecimal digit in lower case. -/
def hexDigit (n : Nat) : Char := Nat.digitChar (n % 16)

/-- What is written for one character of a text.  Beyond ASCII everything is written as it is. -/
def escapeChar (c : Char) : List Char :=
  if c = '"' then ['\\', '"']
  else if c = '\\' then ['\\', '\\']
  else if c = '\x08' then ['\\', 'b']
  else if c = '\x0c' then ['\\', 'f']
  else if c = '\n' then ['\\', 'n']
  else if c = '\r' then ['\\', 'r']
  else if c = '\t' then ['\\', 't']
  else if c.toNat < 0x20 then ['\\', 'u', '0', '0', hexDigit (c.toNat / 16), hexDigit c.toNat]
  else [c]

/-- A text between quotes.  Controls, quotes and backslashes are escaped and nothing else, so that a
line of output never has a line break within it. -/
def quote (s : String) : String :=
  String.ofList ('"' :: s.toList.flatMap escapeChar ++ ['"'])

/-- The decimal with its point, when `whole` digits stand in front of it. -/
def pointed (digits : List Char) (whole : Nat) : String :=
  String.ofList (digits.take whole ++ '.' :: digits.drop whole)

/-- The digits of a number that is no integer, which always show a point or an
exponent: positional from five places behind the point up to sixteen in front of
it, scientific beyond. -/
def realDigits (d : Binary64.Digits) : String :=
  let digits := Nat.toDigits 10 d.digits
  let whole := digits.length + d.places
  if 0 ≤ d.places ∧ whole ≤ 16 then
    String.ofList (digits ++ List.replicate d.places.toNat '0' ++ ['.', '0'])
  else if 0 < whole ∧ whole ≤ 16 then pointed digits whole.toNat
  else if -5 < whole ∧ whole ≤ 0 then
    String.ofList ('0' :: '.' :: List.replicate (-whole).toNat '0' ++ digits)
  else
    (if digits.length = 1 then String.ofList digits else pointed digits 1)
      ++ "e" ++ Decimal.ofInt (whole - 1)

/-- A number that is no integer, in the fewest digits that denote it; of two decimals
that are equally near the even one. -/
def realText (x : Binary64) : String := x.sign ++ realDigits (x.digits Ratio.roundEven)

mutual

/-- **The written form of a value**, without blanks.  Members come in the order in which the value
has them, so that the printed records are told apart by nothing but their fields. -/
def render : Json → String
  | .null => "null"
  | .bool true => "true"
  | .bool false => "false"
  | .int n => Decimal.ofInt n
  | .real x => realText x
  | .text s => quote s
  | .array items => "[" ++ renderItems items ++ "]"
  | .object members => "\x7b" ++ renderMembers members ++ "\x7d"

/-- The items of an array, separated by commas. -/
def renderItems : List Json → String
  | [] => ""
  | [item] => render item
  | item :: rest => render item ++ "," ++ renderItems rest

/-- The members of an object, separated by commas. -/
def renderMembers : List (String × Json) → String
  | [] => ""
  | [(name, value)] => quote name ++ ":" ++ render value
  | (name, value) :: rest => quote name ++ ":" ++ render value ++ "," ++ renderMembers rest

end

end DesignHistory.Json
