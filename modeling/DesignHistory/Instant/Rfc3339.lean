import DesignHistory.Instant
import DesignHistory.Text.Decimal

/-!
# Instants as RFC 3339 text

The written form of an instant, always in UTC, and the reading of texts with any
offset.

## Main definitions

* `Instant.toRfc3339`: writes `2024-01-01T00:00:00.500Z`; the fraction has 0, 3,
  6 or 9 digits, the fewest that hold it.
* `Instant.ofRfc3339?`: reads a date, a time with an optional fraction of at most
  nine digits, and `Z` or an offset.

A leap second is written, and may be read, as second 60.  Years before 0000 and
after 9999, which only an offset can bring about, are written with a sign.
-/

namespace DesignHistory.Instant

/-! ### Writing -/

/-- The fraction of a second, with the point, or nothing for a whole second. -/
def fractionText (nanos : Nat) : String :=
  if nanos = 0 then ""
  else if nanos % 1000000 = 0 then "." ++ Decimal.padded 3 (nanos / 1000000)
  else if nanos % 1000 = 0 then "." ++ Decimal.padded 6 (nanos / 1000)
  else "." ++ Decimal.padded 9 nanos

/-- A year with four digits, or with a sign where four digits are not enough. -/
def yearText (year : Int) : String :=
  if 0 ≤ year ∧ year ≤ 9999 then Decimal.padded 4 year.toNat
  else (if year < 0 then "-" else "+") ++ Decimal.padded 4 year.natAbs

/-- **The written form of an instant**, in UTC.  The fraction has none, three, six or nine digits,
whichever is the least that is exact, and a leap second is written as the second 60. -/
def toRfc3339 (t : Instant) : String :=
  let date := CivilDate.ofDayNumber (t.seconds / 86400 + CivilDate.epochDay)
  let second := (t.seconds % 86400).toNat
  let leap := t.nanos / 1000000000
  yearText date.year ++ "-" ++ Decimal.padded 2 date.month ++ "-" ++ Decimal.padded 2 date.day
    ++ "T" ++ Decimal.padded 2 (second / 3600)
    ++ ":" ++ Decimal.padded 2 (second % 3600 / 60)
    ++ ":" ++ Decimal.padded 2 (second % 60 + leap)
    ++ fractionText (t.nanos % 1000000000) ++ "Z"

/-! ### Reading -/

/-- A number of exactly `width` digits, and the rest of the text. -/
def readFixed? (width : Nat) (cs : List Char) : Option (Nat × List Char) :=
  let digits := cs.take width
  if digits.length = width ∧ digits.all Char.isDigit then
    some (Decimal.value digits, cs.drop width)
  else none

/-- The rest of a text after one expected character. -/
def skip? (c : Char) : List Char → Option (List Char)
  | c' :: cs => if c' = c then some cs else none
  | [] => none

/-- The nanoseconds of an optional fraction of one to nine digits. -/
def readFraction? : List Char → Option (Nat × List Char)
  | '.' :: cs =>
    let digits := cs.takeWhile Char.isDigit
    if 1 ≤ digits.length ∧ digits.length ≤ 9 then
      some (Decimal.value digits * Nat.pow 10 (9 - digits.length), cs.dropWhile Char.isDigit)
    else none
  | cs => some (0, cs)

/-- The seconds that an offset is ahead of UTC. -/
def readOffset? : List Char → Option Int
  | ['Z'] => some 0
  | sign :: cs => do
    let ahead ← if sign = '+' then some true else if sign = '-' then some false else none
    let (hours, cs) ← readFixed? 2 cs
    let cs ← skip? ':' cs
    let (minutes, cs) ← readFixed? 2 cs
    if hours ≤ 23 ∧ minutes ≤ 59 ∧ cs = [] then
      let seconds : Int := (hours * 3600 + minutes * 60 : Nat)
      some (if ahead then seconds else -seconds)
    else none
  | [] => none

/-- The instant that a text denotes.  All parts but the fraction have a fixed number of digits.  An
offset is taken off, so that texts with different offsets can denote the same instant. -/
def ofRfc3339? (s : String) : Option Instant := do
  let (year, cs) ← readFixed? 4 s.toList
  let cs ← skip? '-' cs
  let (month, cs) ← readFixed? 2 cs
  let cs ← skip? '-' cs
  let (day, cs) ← readFixed? 2 cs
  let cs ← skip? 'T' cs
  let (hour, cs) ← readFixed? 2 cs
  let cs ← skip? ':' cs
  let (minute, cs) ← readFixed? 2 cs
  let cs ← skip? ':' cs
  let (second, cs) ← readFixed? 2 cs
  let (nanos, cs) ← readFraction? cs
  let offset ← readOffset? cs
  let date : CivilDate := ⟨year, month, day⟩
  if date.Valid ∧ hour ≤ 23 ∧ minute ≤ 59 ∧ second ≤ 60 then
    let leap := second / 60
    some
      { seconds := (date.dayNumber - CivilDate.epochDay) * 86400
          + (hour * 3600 + minute * 60 + (second - leap) : Nat) - offset
        nanos := leap * 1000000000 + nanos }
  else none

end DesignHistory.Instant
