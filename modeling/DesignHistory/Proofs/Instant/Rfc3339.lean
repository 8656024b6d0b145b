import DesignHistory.Instant.Rfc3339
import DesignHistory.Proofs.Instant.Calendar
import DesignHistory.Proofs.Text.Decimal

/-!
# Instants, written and read

An instant of the years 0 to 9999 outside a leap second is written with a fraction of 0, 3, 6 or 9
digits, and what is written is read as the instant.  Each part of the text is read back in front of
whatever follows it; together the parts give the instant since its day is the day of a date in the
calendar.

## Main definitions

* `Instant.Regular`: the instants that are written with a year of four digits and a second below 60.
* `Instant.textOf`: the text of a date and a time of day.

## Main statements

* `Instant.regular_iff`: these instants, counted in seconds.
* `Instant.Regular.length_toRfc3339`: how long the written form is.
* `Instant.Regular.ofRfc3339?_toRfc3339`: what is written is read as the instant.
-/

namespace DesignHistory.Instant

/-- The number of the day of an instant. -/
def dayNumber (t : Instant) : Int := t.seconds / 86400 + CivilDate.epochDay

/-- Instants of the years 0 to 9999 that are in no leap second.  A year outside would be written
with a sign or with more digits, and a leap second as the second number 60. -/
structure Regular (t : Instant) : Prop where
  nanos_lt : t.nanos < 1000000000
  first_le : (CivilDate.mk 0 1 1).dayNumber ≤ t.dayNumber
  le_last : t.dayNumber ≤ (CivilDate.mk 9999 12 31).dayNumber

/-- The regular instants, counted in seconds: from 0000-01-01T00:00:00Z to the last nanosecond
before 10000-01-01T00:00:00Z. -/
theorem regular_iff {t : Instant} :
    t.Regular ↔ t.nanos < 1000000000 ∧ -62167219200 ≤ t.seconds ∧ t.seconds < 253402300800 := by
  have hfirst : (CivilDate.mk 0 1 1).dayNumber = -60 := by decide
  have hlast : (CivilDate.mk 9999 12 31).dayNumber = 3652364 := by decide
  have hepoch : CivilDate.epochDay = 719468 := rfl
  constructor
  · rintro ⟨hnanos, hlow, hhigh⟩
    rw [hfirst, dayNumber] at hlow
    rw [hlast, dayNumber] at hhigh
    exact ⟨hnanos, by omega, by omega⟩
  · rintro ⟨hnanos, hlow, hhigh⟩
    refine ⟨hnanos, ?_, ?_⟩
    · rw [hfirst, dayNumber]
      omega
    · rw [hlast, dayNumber]
      omega

instance (t : Instant) : Decidable t.Regular := decidable_of_iff _ regular_iff.symm

/-! ### The parts of a text -/

/-- A number of a fixed width is read back in front of any text. -/
theorem readFixed?_padded {width n : Nat} (hwidth : 0 < width) (h : n < 10 ^ width)
    (rest : List Char) :
    readFixed? width ((Decimal.padded width n).toList ++ rest) = some (n, rest) := by
  have hlength := Decimal.length_padded hwidth h
  have hdigits : (Decimal.padded width n).toList.all Char.isDigit = true :=
    List.all_eq_true.2 fun c hc => Decimal.isDigit_of_mem_padded hc
  simp only [readFixed?]
  rw [List.take_left' hlength, List.drop_left' hlength, Decimal.value_padded,
    if_pos ⟨hlength, hdigits⟩]

@[simp]
theorem skip?_cons (c : Char) (cs : List Char) : skip? c (c :: cs) = some cs := if_pos rfl

theorem bounds_of_mem_places {places : Nat} (h : places ∈ [3, 6, 9]) : 0 < places ∧ places ≤ 9 := by
  simp only [List.mem_cons, List.not_mem_nil, or_false] at h
  omega

/-- A fraction is written with no digit, or with 3, 6 or 9 digits that hold it. -/
theorem fractionText_cases (nanos : Nat) :
    nanos = 0 ∧ fractionText nanos = ""
      ∨ ∃ places ∈ [3, 6, 9], nanos % 10 ^ (9 - places) = 0
        ∧ fractionText nanos = "." ++ Decimal.padded places (nanos / 10 ^ (9 - places)) := by
  unfold fractionText
  split
  · exact .inl ⟨‹_›, rfl⟩
  split
  · exact .inr ⟨3, by decide, ‹_›, rfl⟩
  split
  · exact .inr ⟨6, by decide, ‹_›, rfl⟩
  · refine .inr ⟨9, by decide, Nat.mod_one nanos, ?_⟩
    rw [Nat.sub_self, Nat.pow_zero, Nat.div_one]

theorem div_lt_of_nanos {nanos places : Nat} (h : nanos < 1000000000) (hplaces : places ≤ 9) :
    nanos / 10 ^ (9 - places) < 10 ^ places := by
  rw [Nat.div_lt_iff_lt_mul (Nat.pow_pos (by decide)), ← Nat.pow_add, Nat.add_sub_cancel' hplaces]
  exact h

/-- A fraction is written as nothing, or as a point and 3, 6 or 9 digits. -/
theorem length_fractionText {nanos : Nat} (h : nanos < 1000000000) :
    (fractionText nanos).length ∈ [0, 4, 7, 10] := by
  rcases fractionText_cases nanos with ⟨-, htext⟩ | ⟨places, hplaces, -, htext⟩
  · rw [htext]
    decide
  · have hbounds := bounds_of_mem_places hplaces
    rw [htext, String.length_append, ← String.length_toList,
      ← String.length_toList, Decimal.length_padded hbounds.1 (div_lt_of_nanos h hbounds.2)]
    simp only [List.mem_cons, List.not_mem_nil, or_false] at hplaces
    rcases hplaces with rfl | rfl | rfl <;> decide

/-- A fraction is read back in front of the letter that stands for UTC.  There are four widths, and
a shorter one stands for the zeros that it leaves out. -/
theorem readFraction?_fractionText {nanos : Nat} (h : nanos < 1000000000) (rest : List Char) :
    readFraction? ((fractionText nanos).toList ++ 'Z' :: rest) = some (nanos, 'Z' :: rest) := by
  rcases fractionText_cases nanos with ⟨rfl, htext⟩ | ⟨places, hplaces, hmod, htext⟩
  · rw [htext]
    rfl
  · have hbounds := bounds_of_mem_places hplaces
    have hdigits : ∀ c ∈ (Decimal.padded places (nanos / 10 ^ (9 - places))).toList,
        c.isDigit = true := fun c hc => Decimal.isDigit_of_mem_padded hc
    have hrest : ∀ c ∈ ('Z' :: rest).head?, c.isDigit = false := by
      rintro c ⟨⟩
      rfl
    have hlength := Decimal.length_padded hbounds.1 (div_lt_of_nanos h hbounds.2)
    have hmul : nanos / 10 ^ (9 - places) * Nat.pow 10 (9 - places) = nanos :=
      Nat.div_mul_cancel (Nat.dvd_of_mod_eq_zero hmod)
    have hpoint : ".".toList = ['.'] := rfl
    rw [htext, String.toList_append, hpoint, List.append_assoc, List.singleton_append]
    simp only [readFraction?]
    rw [Decimal.takeWhile_digits hdigits hrest, Decimal.dropWhile_digits hdigits hrest, hlength,
      Decimal.value_padded, hmul]
    exact if_pos ⟨hbounds.1, hbounds.2⟩

/-! ### The whole text -/

/-- The text of a date and a time of day in UTC.  The parts are written with fixed widths, which is
how a reader knows where each one ends. -/
def textOf (date : CivilDate) (hour minute second nanos : Nat) : String :=
  Decimal.padded 4 date.year.toNat ++ "-" ++ Decimal.padded 2 date.month ++ "-"
    ++ Decimal.padded 2 date.day ++ "T" ++ Decimal.padded 2 hour ++ ":" ++ Decimal.padded 2 minute
    ++ ":" ++ Decimal.padded 2 second ++ fractionText nanos ++ "Z"

section Parts

variable {date : CivilDate} {hour minute second nanos : Nat} (hdate : date.Valid)
  (hyear : 0 ≤ date.year ∧ date.year ≤ 9999) (hhour : hour ≤ 23) (hminute : minute ≤ 59)
  (hsecond : second ≤ 59)

include hdate hyear hhour hminute hsecond

/-- The length of a text depends on its fraction alone. -/
theorem length_textOf :
    (textOf date hour minute second nanos).length = 20 + (fractionText nanos).length := by
  have htwo : ∀ {n : Nat}, n < 100 → (Decimal.padded 2 n).length = 2 := by
    intro n hn
    rw [← String.length_toList, Decimal.length_padded (by decide) hn]
  have hfour : (Decimal.padded 4 date.year.toNat).length = 4 := by
    rw [← String.length_toList, Decimal.length_padded (by decide) (by omega)]
  have hmonth : date.month < 100 := Nat.lt_of_le_of_lt hdate.2.1 (by decide)
  have hday : date.day < 100 := Nat.lt_of_le_of_lt (CivilDate.day_le hdate) (by decide)
  have hsign : "-".length = 1 ∧ "T".length = 1 ∧ ":".length = 1 ∧ "Z".length = 1 := by decide
  simp only [textOf, String.length_append, hfour, htwo hmonth, htwo hday,
    htwo (by omega : hour < 100), htwo (by omega : minute < 100), htwo (by omega : second < 100),
    hsign]
  omega

/-- The parts of a text are read one after the other.  Each of them stops at a character that the
next one does not begin with. -/
theorem ofRfc3339?_textOf (hnanos : nanos < 1000000000) :
    ofRfc3339? (textOf date hour minute second nanos)
      = some
        { seconds := (date.dayNumber - CivilDate.epochDay) * 86400
            + (hour * 3600 + minute * 60 + second : Nat)
          nanos := nanos } := by
  have htwo : ∀ {n : Nat}, n < 100 → ∀ rest,
      readFixed? 2 ((Decimal.padded 2 n).toList ++ rest) = some (n, rest) :=
    fun hn => readFixed?_padded (by decide) hn
  have hfour := readFixed?_padded (by decide : 0 < 4) (by omega : date.year.toNat < 10 ^ 4)
  have hmonth : date.month < 100 := Nat.lt_of_le_of_lt hdate.2.1 (by decide)
  have hday : date.day < 100 := Nat.lt_of_le_of_lt (CivilDate.day_le hdate) (by decide)
  have hleap : second / 60 = 0 := Nat.div_eq_of_lt (by omega)
  have hdash : "-".toList = ['-'] := rfl
  have htime : "T".toList = ['T'] := rfl
  have hcolon : ":".toList = [':'] := rfl
  have hutc : "Z".toList = ['Z'] := rfl
  simp only [ofRfc3339?, textOf, String.toList_append, hdash, htime, hcolon, hutc,
    List.append_assoc, List.cons_append, List.nil_append, hfour, htwo hmonth, htwo hday,
    htwo (by omega : hour < 100), htwo (by omega : minute < 100), htwo (by omega : second < 100),
    skip?_cons, readFraction?_fractionText hnanos, readOffset?, Option.bind_eq_bind,
    Option.bind_some, Int.toNat_of_nonneg hyear.1]
  rw [if_pos ⟨hdate, hhour, hminute, Nat.le_succ_of_le hsecond⟩, hleap, Nat.sub_zero, Nat.zero_mul,
    Nat.zero_add, Int.sub_zero]

end Parts

theorem time_bounds {second : Nat} (h : second < 86400) :
    second / 3600 ≤ 23 ∧ second % 3600 / 60 ≤ 59 ∧ second % 60 ≤ 59
      ∧ second / 3600 * 3600 + second % 3600 / 60 * 60 + second % 60 = second := by
  omega

namespace Regular

variable {t : Instant} (h : t.Regular)

include h

theorem year_bounds :
    0 ≤ (CivilDate.ofDayNumber t.dayNumber).year
      ∧ (CivilDate.ofDayNumber t.dayNumber).year ≤ 9999 := by
  have hnumber := CivilDate.dayNumber_ofDayNumber t.dayNumber
  exact CivilDate.year_bounds (CivilDate.valid_ofDayNumber _) (hnumber.symm ▸ h.first_le)
    (hnumber.symm ▸ h.le_last)

/-- An instant is written as its date and its time of day. -/
theorem toRfc3339_eq :
    t.toRfc3339 = textOf (CivilDate.ofDayNumber t.dayNumber) ((t.seconds % 86400).toNat / 3600)
      ((t.seconds % 86400).toNat % 3600 / 60) ((t.seconds % 86400).toNat % 60) t.nanos := by
  have hleap : t.nanos / 1000000000 = 0 := Nat.div_eq_of_lt h.nanos_lt
  have hfraction : t.nanos % 1000000000 = t.nanos := Nat.mod_eq_of_lt h.nanos_lt
  have hday : t.seconds / 86400 + CivilDate.epochDay = t.dayNumber := rfl
  simp only [toRfc3339]
  rw [hday, yearText, if_pos h.year_bounds, hleap, hfraction, Nat.add_zero, textOf]

/-- An instant is written without a fraction, or with one of 3, 6 or 9 digits behind a point. -/
theorem length_toRfc3339 : t.toRfc3339.length ∈ [20, 24, 27, 30] := by
  obtain ⟨hhour, hminute, hsecond, -⟩ :=
    time_bounds (by omega : (t.seconds % 86400).toNat < 86400)
  have hfraction := length_fractionText h.nanos_lt
  rw [h.toRfc3339_eq,
    length_textOf (CivilDate.valid_ofDayNumber _) h.year_bounds hhour hminute hsecond]
  simp only [List.mem_cons, List.not_mem_nil, or_false] at hfraction ⊢
  omega

/-- **What is written for an instant is read as the instant**, to the nanosecond. -/
theorem ofRfc3339?_toRfc3339 : ofRfc3339? t.toRfc3339 = some t := by
  obtain ⟨hhour, hminute, hsecond, htime⟩ :=
    time_bounds (by omega : (t.seconds % 86400).toNat < 86400)
  have hseconds : (t.dayNumber - CivilDate.epochDay) * 86400 + (t.seconds % 86400).toNat
      = t.seconds := by
    rw [dayNumber]
    omega
  rw [h.toRfc3339_eq, ofRfc3339?_textOf (CivilDate.valid_ofDayNumber _) h.year_bounds hhour hminute
    hsecond h.nanos_lt, CivilDate.dayNumber_ofDayNumber, htime, hseconds]

end Regular

end DesignHistory.Instant
