import DesignHistory.Text.Decimal

/-!
# Binary numbers of 64 bits

A number with a fraction or an exponent, or one beyond 64-bit integers, is kept
with 53 binary digits.  Everything here is exact arithmetic on natural numbers: a
number is a significand times a power of two, and each operation rounds the exact
quotient to the nearest number.

## Main definitions

* `Binary64`: a sign, a significand and an exponent.
* `Binary64.ofRatio?`: the number nearest to a quotient, the even one of two.
* `Binary64.mul?`, `Binary64.div?`: arithmetic.
* `Binary64.ofDecimal?`: an integer times a power of ten, in rounded steps.
* `Binary64.rounded`: the nearest natural number, halves going up.
* `Binary64.digits`: the shortest decimal that denotes the number.
* `Binary64.text`: that decimal without exponent.
-/

namespace DesignHistory

/-- The number `significand * 2 ^ exponent`, with a sign.  The sign is a field of its own, for the
sake of minus zero; there are no infinities, and an operation that would leave the range gives
none. -/
structure Binary64 where
  negative : Bool
  significand : Nat
  exponent : Int
deriving DecidableEq, Repr

/-- A quotient of natural numbers.  The exact result of an operation is a quotient, which is rounded
once; nothing is assumed about common factors. -/
structure Ratio where
  num : Nat
  den : Nat
deriving DecidableEq, Repr

namespace Ratio

/-- A quotient times a power of a base. -/
def scale (r : Ratio) (base : Nat) : Int → Ratio
  | .ofNat e => ⟨r.num * Nat.pow base e, r.den⟩
  | .negSucc e => ⟨r.num, r.den * Nat.pow base (e + 1)⟩

/-- The quotient rounded down. -/
def floor (r : Ratio) : Nat := r.num / r.den

/-- The nearest natural number, halves going up. -/
def roundUp (r : Ratio) : Nat := (2 * r.num + r.den) / (2 * r.den)

/-- The nearest natural number, halves going to the even one. -/
def roundEven (r : Ratio) : Nat :=
  let low := r.floor
  let twice := 2 * (r.num - low * r.den)
  if twice < r.den ∨ (twice = r.den ∧ low % 2 = 0) then low else low + 1

/-- Whether one quotient is at most another one. -/
def atMost (r s : Ratio) : Bool := r.num * s.den ≤ s.num * r.den

/-- Whether one quotient is less than another one. -/
def less (r s : Ratio) : Bool := r.num * s.den < s.num * r.den

end Ratio

namespace Binary64

/-- The exponent of the smallest numbers. -/
def minExponent : Int := -1074

/-! ### From decimals -/

/-- The number nearest to a quotient that is not zero: the exponent is the one
that leaves 53 binary digits in front of the point. -/
def ofPositive? (negative : Bool) (r : Ratio) : Option Binary64 :=
  let guess : Int := (r.num.log2 : Int) - r.den.log2 - 53
  let short := (r.scale 2 (-guess)).floor < Nat.pow 2 53
  let exponent := max minExponent (if short then guess else guess + 1)
  let significand := (r.scale 2 (-exponent)).roundEven
  if Nat.pow 2 1024 ≤ (Ratio.scale ⟨significand, 1⟩ 2 exponent).floor then none
  else some ⟨negative, significand, exponent⟩

/-- The number nearest to a quotient, none if it is too large. -/
def ofRatio? (negative : Bool) (r : Ratio) : Option Binary64 :=
  if r.num = 0 then some ⟨negative, 0, minExponent⟩ else ofPositive? negative r

/-- The number nearest to an integer. -/
def ofInt? (n : Int) : Option Binary64 := ofRatio? (n < 0) ⟨n.natAbs, 1⟩

/-- A number with the other sign. -/
def neg (x : Binary64) : Binary64 := { x with negative := !x.negative }

/-- The number zero. -/
def zero : Binary64 := ⟨false, 0, minExponent⟩

/-- The magnitude of a number. -/
def magnitude (x : Binary64) : Ratio := Ratio.scale ⟨x.significand, 1⟩ 2 x.exponent

/-! ### Arithmetic -/

/-- A product, none if it is too large. -/
def mul? (x y : Binary64) : Option Binary64 :=
  let (a, b) := (x.magnitude, y.magnitude)
  ofRatio? (x.negative != y.negative) ⟨a.num * b.num, a.den * b.den⟩

/-- A quotient, none if it is too large or the divisor is zero. -/
def div? (x y : Binary64) : Option Binary64 :=
  if y.significand = 0 then none
  else
    let (a, b) := (x.magnitude, y.magnitude)
    ofRatio? (x.negative != y.negative) ⟨a.num * b.den, a.den * b.num⟩

/-- The largest exponent of a power of ten that is in range. -/
def maxPower : Nat := 308

/-- The number nearest to a power of ten. -/
def powerOfTen? (n : Nat) : Option Binary64 := ofRatio? false ⟨Nat.pow 10 n, 1⟩

/-- A number divided by a power of ten, which takes several steps if the power is
out of range. -/
def divPower? (x : Binary64) (n : Nat) : Option Binary64 := do
  if n ≤ maxPower then x.div? (← powerOfTen? n)
  else if x.significand = 0 then return x
  else (← x.div? (← powerOfTen? maxPower)).divPower? (n - maxPower)
termination_by n
decreasing_by simp only [maxPower] at *; omega

/-- A number times a power of ten, none if it is too large. -/
def mulPower? (x : Binary64) (n : Nat) : Option Binary64 :=
  if n ≤ maxPower then do x.mul? (← powerOfTen? n)
  else if x.significand = 0 then some x
  else none

/-- An integer times a power of ten, none if it is too large: the integer and the power are rounded
each on its own before they are put together.  For an integer of many digits the result need not be
the nearest number. -/
def ofDecimal? (n : Nat) : Int → Option Binary64
  | .ofNat e => do (← ofInt? n).mulPower? e
  | .negSucc e => do (← ofInt? n).divPower? (e + 1)

/-! ### To natural numbers and decimals -/

/-- The nearest natural number, halves going up; zero for a negative number. -/
def rounded (x : Binary64) : Nat := if x.negative then 0 else x.magnitude.roundUp

/-- The quotients half way to the number below and to the number above. -/
def bounds (x : Binary64) : Ratio × Ratio :=
  let half := fun n : Nat => Ratio.scale ⟨n, 4⟩ 2 x.exponent
  let isLowest := x.significand == Nat.pow 2 52 && x.exponent != minExponent
  (half (4 * x.significand - (if isLowest then 1 else 2)), half (4 * x.significand + 2))

/-- Whether a decimal denotes the number: it lies between the bounds, which count
if the significand is even. -/
def denotedBy (x : Binary64) (r : Ratio) : Bool :=
  let (low, high) := x.bounds
  if x.significand % 2 = 0 then low.atMost r && r.atMost high else low.less r && r.less high

/-- A decimal: digits times a power of ten. -/
structure Digits where
  digits : Nat
  places : Int
deriving DecidableEq, Repr

/-- The quotient that a decimal is. -/
def Digits.ratio (d : Digits) : Ratio := Ratio.scale ⟨d.digits, 1⟩ 10 d.places

/-- The decimal nearest to a number among those with given places that denote it;
`nearest` decides between two that are equally near. -/
def onGrid? (x : Binary64) (nearest : Ratio → Nat) (places : Int) : Option Digits :=
  let scaled := x.magnitude.scale 10 (-places)
  let near := nearest scaled
  let low := scaled.floor
  let other := if near = low then low + 1 else low
  if x.denotedBy (Digits.ratio ⟨near, places⟩) then some ⟨near, places⟩
  else if x.denotedBy (Digits.ratio ⟨other, places⟩) then some ⟨other, places⟩
  else none

/-- The decimal with the fewest digits, beginning with `places` and going to finer
grids for a number of steps. -/
def shortest (x : Binary64) (nearest : Ratio → Nat) : Nat → Int → Digits
  | 0, places => ⟨nearest (x.magnitude.scale 10 (-places)), places⟩
  | steps + 1, places =>
    (x.onGrid? nearest places).getD (x.shortest nearest steps (places - 1))

/-- A power of ten above the number. -/
def topPlaces (x : Binary64) : Int :=
  let r := x.magnitude
  if r.den ≤ r.num then (Nat.toDigits 10 r.floor).length
  else 1 - ((Nat.toDigits 10 (r.den / r.num)).length : Int)

/-- Digits with the point put in. -/
def Digits.text (d : Digits) : String :=
  match d.places with
  | .ofNat n => Decimal.ofNat (d.digits * Nat.pow 10 n)
  | .negSucc n =>
    let unit := Nat.pow 10 (n + 1)
    Decimal.ofNat (d.digits / unit) ++ "." ++ Decimal.padded (n + 1) (d.digits % unit)

/-- The shortest decimal that denotes the magnitude of a number: of several the nearest, and of two
that are equally near the one that `nearest` rounds to.  Two texts of numbers differ in that last
choice, so it is a parameter. -/
def digits (x : Binary64) (nearest : Ratio → Nat) : Digits :=
  if x.significand = 0 then ⟨0, 0⟩ else x.shortest nearest 20 x.topPlaces

/-- The sign in front of a written number. -/
def sign (x : Binary64) : String := if x.negative then "-" else ""

/-- The shortest decimal that denotes the number, without exponent; of two the upper
one. -/
def text (x : Binary64) : String := x.sign ++ (x.digits Ratio.roundUp).text

end Binary64

end DesignHistory
