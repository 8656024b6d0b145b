import DesignHistory.Text.Decimal
import DesignHistory.Text.Hexadecimal

/-!
# Internet addresses

The written forms of internet addresses, of four bytes and of eight groups of 16
bits.

## Main definitions

* `IpAddress.isV4`: four decimal numbers between points.
* `IpAddress.isV6`: groups of hexadecimal digits between colons, a run of zero
  groups left out at most once, and the last two groups possibly as four numbers.
* `IpAddress.endsInNumber`, `IpAddress.isNumeric`: the lax form of four bytes that
  names of hosts admit, where numbers may be octal or hexadecimal and the last one
  stands for all bytes that are left.
-/

namespace DesignHistory.Database.IpAddress

open Text (hexNumber isHexDigit)

/-! ### Strict forms -/

/-- Whether a text is a number of one byte in decimal, without leading zeros. -/
def isByte (cs : List Char) : Bool :=
  !cs.isEmpty && cs.length ≤ 3 && cs.all Char.isDigit && Decimal.value cs ≤ 255
    && (cs.head? != some '0' || cs.length == 1)

/-- Whether a text is an address of four bytes. -/
def isV4 (cs : List Char) : Bool :=
  let parts := cs.splitOn '.'
  parts.length == 4 && parts.all isByte

/-- Whether a text is a group of 16 bits in hexadecimal. -/
def isGroup (cs : List Char) : Bool := !cs.isEmpty && cs.length ≤ 4 && cs.all isHexDigit

/-- How many groups of 16 bits the parts between colons stand for; the last part
may be an address of four bytes. -/
def countGroups? : List (List Char) → Option Nat
  | [] => some 0
  | [part] => if isGroup part then some 1 else if isV4 part then some 2 else none
  | part :: rest => if isGroup part then (countGroups? rest).map (· + 1) else none

/-- The parts of a text between colons, none for an empty text. -/
def groupParts (cs : List Char) : List (List Char) :=
  if cs.isEmpty then [] else cs.splitOn ':'

/-- A text cut at the first pair of colons. -/
def cutAtGap? : List Char → Option (List Char × List Char)
  | ':' :: ':' :: cs => some ([], cs)
  | c :: cs => (cutAtGap? cs).map fun (front, back) => (c :: front, back)
  | [] => none

/-- Whether a text is an address of eight groups.  Only groups stand in front of a
gap, which takes the place of at least one group. -/
def isV6 (cs : List Char) : Bool :=
  match cutAtGap? cs with
  | none => countGroups? (groupParts cs) == some 8
  | some (front, back) =>
    (groupParts front).all isGroup
      && (match countGroups? (groupParts back) with
          | some n => (groupParts front).length + n ≤ 7
          | none => false)

/-- Whether a text is an address of either kind. -/
def isAddress (cs : List Char) : Bool := isV4 cs || isV6 cs

/-! ### The lax form -/

/-- The number that octal digits denote. -/
def octalNumber (digits : List Char) : Nat := Nat.ofDigitChars 8 digits 0

/-- The number that a part of a lax address denotes: hexadecimal after `0x`, octal
after another zero, decimal otherwise. -/
def readNumber? : List Char → Option Nat
  | '0' :: 'x' :: digits | '0' :: 'X' :: digits =>
    if digits.all isHexDigit then some (hexNumber digits) else none
  | '0' :: digit :: digits =>
    if (digit :: digits).all fun c => '0' ≤ c && c ≤ '7' then some (octalNumber (digit :: digits))
    else none
  | [] => none
  | digits => if digits.all Char.isDigit then some (Decimal.value digits) else none

/-- The parts of a lax address; a point may stand at its end. -/
def numberParts (cs : List Char) : List (List Char) :=
  let parts := cs.splitOn '.'
  if parts.getLast? = some [] then parts.dropLast else parts

/-- Whether a name of a host is taken as an address, because its last part is a number.  Such a name
has to be an address then: it is refused, and not looked up, if it is none. -/
def endsInNumber (cs : List Char) : Bool :=
  match (numberParts cs).getLast? with
  | some part => (!part.isEmpty && part.all Char.isDigit) || (readNumber? part).isSome
  | none => false

/-- Whether a name of a host is an address in the lax form.  Parts may be left out, the last one
then standing for all the bytes that remain, and may be written in three bases. -/
def isNumeric (cs : List Char) : Bool :=
  match (numberParts cs).mapM readNumber? with
  | none => false
  | some numbers =>
    match numbers.reverse with
    | [] => false
    | last :: front =>
      front.length ≤ 3 && front.all (· ≤ 255) && last < Nat.pow 256 (4 - front.length)

end DesignHistory.Database.IpAddress
