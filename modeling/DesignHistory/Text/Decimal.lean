/-!
# Decimal numbers as text

Ids are written as signed decimals and read back from several kinds of text: a
command line admits a sign and leading zeros, an identity admits neither.  This
module has the common part, writing a number and reading digits under a bound.

## Main definitions

* `Decimal.ofNat`, `Decimal.ofInt`, `Decimal.ofInt64`: writing.
* `Decimal.value`: the number a list of digits denotes.
* `Decimal.readDigits`: reading digits from the left under a bound.
* `Decimal.readInt64`, `Decimal.readNat`: a signed 64-bit number with an optional
  sign, and a bounded number without a minus sign.

Reading stops at the first character that is wrong: a character that is no
digit, or the digit that makes the number leave its range.
-/

namespace DesignHistory.Decimal

/-- Why a text is not a number of the wanted range.  A digit that is wrong is found before the range
is left, if it stands further to the left. -/
inductive ReadError where
  | empty
  | invalidDigit
  | tooLarge
  | tooSmall
deriving DecidableEq, Repr

/-- The wording of a reading error. -/
def ReadError.message : ReadError → String
  | .empty => "cannot parse integer from empty string"
  | .invalidDigit => "invalid digit found in string"
  | .tooLarge => "number too large to fit in target type"
  | .tooSmall => "number too small to fit in target type"

/-! ### Writing -/

/-- A natural number in decimal, without leading zeros. -/
def ofNat (n : Nat) : String := String.ofList (Nat.toDigits 10 n)

/-- An integer in decimal, a minus sign in front of the negative ones. -/
def ofInt : Int → String
  | .ofNat n => ofNat n
  | .negSucc n => "-" ++ ofNat (n + 1)

/-- A signed 64-bit number in decimal. -/
def ofInt64 (n : Int64) : String := ofInt n.toInt

/-- A natural number in decimal with at least `width` digits. -/
def padded (width n : Nat) : String :=
  let digits := Nat.toDigits 10 n
  String.ofList (List.replicate (width - digits.length) '0' ++ digits)

/-! ### Reading -/

/-- The number that decimal digits denote. -/
def value (digits : List Char) : Nat := Nat.ofDigitChars 10 digits 0

/-- Reads digits after a number read so far, as long as the number is at most `bound`; leaving the
range is reported as `overflow`.  The bound is checked at every digit, so that leading zeros never
lead out of the range. -/
def readDigits (bound : Nat) (overflow : ReadError) : Nat → List Char → Except ReadError Nat
  | n, [] => .ok n
  | n, c :: cs =>
    if c.isDigit then
      let n' := 10 * n + (c.toNat - '0'.toNat)
      if n' ≤ bound then readDigits bound overflow n' cs else .error overflow
    else .error .invalidDigit

/-- The largest signed 64-bit number. -/
def maxInt64 : Nat := 9223372036854775807

/-- The largest 32-bit number without a sign. -/
def maxUInt32 : Nat := 4294967295

/-- The largest 64-bit number without a sign. -/
def maxUInt64 : Nat := 18446744073709551615

/-- Whether an integer is a signed 64-bit number. -/
def fitsInt64 (n : Int) : Bool := -(maxInt64 : Int) - 1 ≤ n && n ≤ (maxInt64 : Int)

/-- Reads a signed 64-bit number: an optional sign and at least one digit.  A plus sign and leading
zeros are accepted here; it is the codec of identities that insists on one spelling. -/
def readInt64 (s : String) : Except ReadError Int64 :=
  match s.toList with
  | [] => .error .empty
  | ['+'] | ['-'] => .error .invalidDigit
  | '+' :: digits => (readDigits maxInt64 .tooLarge 0 digits).map fun n => Int64.ofInt n
  | '-' :: digits => (readDigits (maxInt64 + 1) .tooSmall 0 digits).map fun n => Int64.ofInt (-n)
  | digits => (readDigits maxInt64 .tooLarge 0 digits).map fun n => Int64.ofInt n

/-- Reads a number that is at most `bound`: an optional plus sign and at least
one digit. -/
def readNat (bound : Nat) (s : String) : Except ReadError Nat :=
  match s.toList with
  | [] => .error .empty
  | ['+'] => .error .invalidDigit
  | '+' :: digits => readDigits bound .tooLarge 0 digits
  | digits => readDigits bound .tooLarge 0 digits

end DesignHistory.Decimal
