/-!
# Instants and the civil calendar

A version is stamped with the instant of its creation.  An instant is counted
in seconds from 1970-01-01T00:00:00Z with a fraction in nanoseconds; a leap
second is a fraction of a whole second or more on top of the second before it.

The calendar is the proleptic Gregorian one.  Days are counted from
0000-03-01, so that the leap day ends a year: a period of 400 years then splits
into centuries, groups of four years, years and months by division alone.

## Main definitions

* `Instant`: seconds and nanoseconds.
* `CivilDate`: year, month and day, with `CivilDate.Valid`.
* `CivilDate.ofDayNumber`, `CivilDate.dayNumber`: the two directions between a
  date and its day number.
-/

namespace DesignHistory

/-- A point in time: seconds since 1970-01-01T00:00:00Z, and nanoseconds after
that second, a whole second or more in a leap second. -/
structure Instant where
  seconds : Int
  nanos : Nat
deriving DecidableEq, Repr

/-- The instant from which seconds are counted. -/
def Instant.epoch : Instant := ⟨0, 0⟩

instance : Inhabited Instant := ⟨Instant.epoch⟩

/-- The instant at microsecond precision; the seconds take up a leap second. -/
def Instant.toMicros (t : Instant) : Instant :=
  ⟨t.seconds + (t.nanos / 1000000000 : Nat), t.nanos % 1000000000 / 1000 * 1000⟩

/-- A day of the proleptic Gregorian calendar, whose years go on through zero and below. -/
structure CivilDate where
  year : Int
  month : Nat
  day : Nat
deriving DecidableEq, Repr

namespace CivilDate

/-- Whether a year has a 29th of February. -/
def isLeapYear (year : Int) : Bool :=
  year % 4 == 0 && (year % 100 != 0 || year % 400 == 0)

/-- The number of days of a month. -/
def daysInMonth (year : Int) (month : Nat) : Nat :=
  if month = 2 then (if isLeapYear year then 29 else 28)
  else if month = 4 ∨ month = 6 ∨ month = 9 ∨ month = 11 then 30
  else 31

/-- Whether the calendar has this day. -/
def Valid (d : CivilDate) : Prop :=
  1 ≤ d.month ∧ d.month ≤ 12 ∧ 1 ≤ d.day ∧ d.day ≤ daysInMonth d.year d.month

instance (d : CivilDate) : Decidable d.Valid :=
  inferInstanceAs (Decidable (_ ∧ _ ∧ _ ∧ _))

/-- The number of days in 400 years. -/
def daysPerEra : Int := 146097

/-- The day number of 1970-01-01. -/
def epochDay : Int := 719468

/-- The days of a year that starts in March before the first of a month, the
month counted from March. -/
def daysBeforeMonth (month : Nat) : Nat := (153 * month + 2) / 5

/-- Days from 0000-03-01 to a date.  A year is taken to start in March, so that a leap day is the
last day of its year and the days before a month do not depend on the year. -/
def dayNumber (d : CivilDate) : Int :=
  let month := if d.month > 2 then d.month - 3 else d.month + 9
  let year : Int := if d.month > 2 then d.year else d.year - 1
  let era := year / 400
  let yearOfEra := year % 400
  era * daysPerEra + (yearOfEra * 365 + yearOfEra / 4 - yearOfEra / 100)
    + (daysBeforeMonth month + (d.day - 1) : Nat)

/-- The date that is a number of days after 0000-03-01.  The days are divided into eras of 400
years, then into centuries, spans of four years and years; the last one of each kind may be a day
longer, which is why two of the quotients are cut off at three. -/
def ofDayNumber (n : Int) : CivilDate :=
  let era := n / daysPerEra
  let dayOfEra := (n % daysPerEra).toNat
  let century := min (dayOfEra / 36524) 3
  let dayOfCentury := dayOfEra - century * 36524
  let quad := dayOfCentury / 1461
  let dayOfQuad := dayOfCentury - quad * 1461
  let yearOfQuad := min (dayOfQuad / 365) 3
  let dayOfYear := dayOfQuad - yearOfQuad * 365
  let month := (5 * dayOfYear + 2) / 153
  let day := dayOfYear - daysBeforeMonth month + 1
  let year := era * 400 + (century * 100 + quad * 4 + yearOfQuad : Nat)
  if month < 10 then ⟨year, month + 3, day⟩ else ⟨year + 1, month - 9, day⟩

end CivilDate

end DesignHistory
