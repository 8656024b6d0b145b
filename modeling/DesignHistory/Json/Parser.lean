import DesignHistory.Binary64
import DesignHistory.Json
import DesignHistory.Text.Decimal
import DesignHistory.Text.Hexadecimal

/-!
# Reading JSON text

A reader for one JSON value, by descent on the text.  Each step consumes a
character or goes one level down, so twice the length of the text bounds the
number of steps.

## Main definitions

* `Json.ofText?`: the value a text denotes, blanks around it allowed.
* `Json.readNumber?`, `Json.readString?`, `Json.readValue?`: the parts, each giving
  the rest of the text as well.
-/

namespace DesignHistory.Json

open Text (hexValue?)

/-- The blanks that may stand between tokens. -/
def isBlank (c : Char) : Bool := c == ' ' || c == '\n' || c == '\t' || c == '\r'

/-- A text without the blanks in front. -/
def skipBlanks (cs : List Char) : List Char := cs.dropWhile isBlank

/-! ### Numbers -/

/-- The digits in front of a text, at least one, and the rest. -/
def readDigits? (cs : List Char) : Option (List Char × List Char) :=
  match cs.takeWhile Char.isDigit with
  | [] => none
  | digits => some (digits, cs.dropWhile Char.isDigit)

/-- The digits of a whole number, with no zero in front of another digit. -/
def readWhole? : List Char → Option (List Char × List Char)
  | '0' :: c :: cs => if c.isDigit then none else some (['0'], c :: cs)
  | cs => readDigits? cs

/-- The digits of a fraction, if there is one. -/
def readFraction? : List Char → Option (Option (List Char) × List Char)
  | '.' :: cs => (readDigits? cs).map fun (digits, rest) => (some digits, rest)
  | cs => some (none, cs)

/-- The exponent, if there is one. -/
def readExponent? : List Char → Option (Option Int × List Char)
  | e :: cs =>
    let value := fun (digits : List Char) => (Decimal.value digits : Int)
    if e == 'e' || e == 'E' then
      match cs with
      | '+' :: rest => (readDigits? rest).map fun (digits, rest) => (some (value digits), rest)
      | '-' :: rest => (readDigits? rest).map fun (digits, rest) => (some (-value digits), rest)
      | _ => (readDigits? cs).map fun (digits, rest) => (some (value digits), rest)
    else some (none, e :: cs)
  | [] => some (none, [])

/-- A number with digits added to it as long as it has 64 bits, and the digits that
are left. -/
def addDigits : Nat → List Char → Nat × List Char
  | n, [] => (n, [])
  | n, c :: cs =>
    let n' := 10 * n + (c.toNat - '0'.toNat)
    if n' ≤ Decimal.maxUInt64 then addDigits n' cs else (n, c :: cs)

/-- The number of digits, a fraction and an exponent.  Digits beyond 64 bits only
count for the place of the point. -/
def realOf? (whole : List Char) (fraction : List Char) (exponent : Int) : Option Binary64 :=
  let (n, moreWhole) := addDigits 0 whole
  let (n, moreFraction) := addDigits n fraction
  let places := (fraction.length : Int) - moreFraction.length
  Binary64.ofDecimal? n (moreWhole.length - places + exponent)

/-- Whether an integer is a number of 64 bits, with or without a sign. -/
def isExact (n : Int) : Bool := Decimal.fitsInt64 n || (0 ≤ n && n ≤ Decimal.maxUInt64)

/-- A number.  It is an integer if it has neither fraction nor exponent, fits in 64 bits and is not
minus zero; a number that is too large is refused.  Minus zero is kept as a number of the other
kind, because no integer would give its sign back. -/
def readNumber? (cs : List Char) : Option (Json × List Char) := do
  let (negative, cs) := match cs with
    | '-' :: cs => (true, cs)
    | cs => (false, cs)
  let (whole, cs) ← readWhole? cs
  let (fraction, cs) ← readFraction? cs
  let (exponent, cs) ← readExponent? cs
  let magnitude := Decimal.value whole
  let n : Int := if negative then -magnitude else magnitude
  if fraction.isNone && exponent.isNone && isExact n && !(negative && magnitude == 0) then
    some (.int n, cs)
  else
    let x ← realOf? whole (fraction.getD []) (exponent.getD 0)
    some (.real (if negative then x.neg else x), cs)

/-! ### Texts -/

/-- The value of four hexadecimal digits. -/
def hexUnit? (a b c d : Char) : Option Nat := do
  some ((((← hexValue? a) * 16 + (← hexValue? b)) * 16 + (← hexValue? c)) * 16 + (← hexValue? d))

/-- The character that a letter after a backslash stands for. -/
def unescape? (c : Char) : Option Char :=
  if c = '"' then some '"'
  else if c = '\\' then some '\\'
  else if c = '/' then some '/'
  else if c = 'b' then some '\x08'
  else if c = 'f' then some '\x0c'
  else if c = 'n' then some '\n'
  else if c = 'r' then some '\r'
  else if c = 't' then some '\t'
  else none

/-- The text up to the closing quote, after the characters read so far in
reverse; a surrogate counts only as half of a pair. -/
def readString? (read : List Char) : List Char → Option (String × List Char)
  | '"' :: cs => some (String.ofList read.reverse, cs)
  | '\\' :: 'u' :: a :: b :: c :: d :: cs =>
    match hexUnit? a b c d with
    | none => none
    | some unit =>
      if unit < 0xd800 ∨ 0xe000 ≤ unit then readString? (Char.ofNat unit :: read) cs
      else if 0xdc00 ≤ unit then none
      else
        match cs with
        | '\\' :: 'u' :: e :: f :: g :: h :: cs =>
          match hexUnit? e f g h with
          | none => none
          | some low =>
            if 0xdc00 ≤ low ∧ low < 0xe000 then
              let code := 0x10000 + (unit - 0xd800) * 0x400 + (low - 0xdc00)
              readString? (Char.ofNat code :: read) cs
            else none
        | _ => none
  | '\\' :: c :: cs =>
    match unescape? c with
    | some c => readString? (c :: read) cs
    | none => none
  | c :: cs => if c.toNat < 0x20 then none else readString? (c :: read) cs
  | [] => none

/-! ### Values -/

/-- How deep arrays and objects may be nested in each other. -/
def maxDepth : Nat := 127

/-- The rest of a text after a given word. -/
def dropWord? : List Char → List Char → Option (List Char)
  | [], cs => some cs
  | _ :: _, [] => none
  | w :: ws, c :: cs => if w = c then dropWord? ws cs else none

mutual

/-- A value, blanks in front allowed, with a bound on how deep it is nested.  The first number is
fuel for the recursion and never the reason of a failure; the second one is the depth, beyond which
a text is refused. -/
def readValue? : Nat → Nat → List Char → Option (Json × List Char)
  | 0, _, _ => none
  | fuel + 1, depth, cs =>
    match skipBlanks cs, depth with
    | '"' :: cs, _ => (readString? [] cs).map fun (s, rest) => (.text s, rest)
    | '[' :: _, 0 | '\x7b' :: _, 0 => none
    | '[' :: cs, depth + 1 =>
      match skipBlanks cs with
      | ']' :: rest => some (.array [], rest)
      | cs => (readItems? fuel depth cs).map fun (items, rest) => (.array items, rest)
    | '\x7b' :: cs, depth + 1 =>
      match skipBlanks cs with
      | '\x7d' :: rest => some (.object [], rest)
      | cs => (readMembers? fuel depth cs).map fun (members, rest) => (.object members, rest)
    | 'n' :: cs, _ => (dropWord? ['u', 'l', 'l'] cs).map fun rest => (.null, rest)
    | 't' :: cs, _ => (dropWord? ['r', 'u', 'e'] cs).map fun rest => (.bool true, rest)
    | 'f' :: cs, _ => (dropWord? ['a', 'l', 's', 'e'] cs).map fun rest => (.bool false, rest)
    | cs, _ => readNumber? cs

/-- The items of an array up to its closing bracket.  A comma has to be followed by an item. -/
def readItems? : Nat → Nat → List Char → Option (List Json × List Char)
  | 0, _, _ => none
  | fuel + 1, depth, cs =>
    match readValue? fuel depth cs with
    | none => none
    | some (item, cs) =>
      match skipBlanks cs with
      | ',' :: cs => (readItems? fuel depth cs).map fun (items, rest) => (item :: items, rest)
      | ']' :: rest => some ([item], rest)
      | _ => none

/-- The members of an object up to its closing brace; of several members of one
name only the last one stays. -/
def readMembers? : Nat → Nat → List Char → Option (List (String × Json) × List Char)
  | 0, _, _ => none
  | fuel + 1, depth, cs =>
    match skipBlanks cs with
    | '"' :: cs =>
      match readString? [] cs with
      | none => none
      | some (name, cs) =>
        match skipBlanks cs with
        | ':' :: cs =>
          match readValue? fuel depth cs with
          | none => none
          | some (value, cs) =>
            match skipBlanks cs with
            | ',' :: cs =>
              (readMembers? fuel depth cs).map fun (members, rest) =>
                (if members.any (·.1 == name) then members else (name, value) :: members, rest)
            | '\x7d' :: rest => some ([(name, value)], rest)
            | _ => none
        | _ => none
    | _ => none

end

/-- The value that a whole text denotes.  Blanks may stand around it, and anything else behind it
makes the text as a whole unreadable. -/
def ofText? (s : String) : Option Json :=
  let cs := s.toList
  match readValue? (2 * cs.length + 2) maxDepth cs with
  | some (value, rest) => if (skipBlanks rest).isEmpty then some value else none
  | none => none

end DesignHistory.Json
