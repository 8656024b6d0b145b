/-!
# Names in ASCII letters

A part of a name in another script has a second form, which is ASCII alone: its
characters of ASCII, a minus sign if there are any, and a number for each other
character in the order of their code points.  The number says how many steps lie between
two insertions, where a step goes to the next place and, behind the last place, to the
next code point.

## Main definitions

* `Punycode.addNumber?`: a number with the one in front of a text added, and the rest.
* `Punycode.decode?`: the text that a form stands for.

The digits of a number are letters and decimal digits, the lowest one first.  A digit
that is smaller than a threshold is the last one; the thresholds depend on how far the
insertions before went.
-/

namespace DesignHistory.HostName.Punycode

/-- The number of digits. -/
def base : Nat := 36

/-- The value of a digit. -/
def digit? (c : Char) : Option Nat :=
  if 'a' ≤ c ∧ c ≤ 'z' then some (c.toNat - 'a'.toNat)
  else if 'A' ≤ c ∧ c ≤ 'Z' then some (c.toNat - 'A'.toNat)
  else if c.isDigit then some (c.toNat - '0'.toNat + 26)
  else none

/-- The threshold for the digit at a place, which is counted in steps of the base. -/
def threshold (place bias : Nat) : Nat := min 26 (max 1 (place - bias))

/-- How many times a distance is divided, and what is left. -/
def shrink (distance : Nat) : Nat × Nat :=
  if 455 < distance then
    let (times, rest) := shrink (distance / 35)
    (times + 1, rest)
  else (0, distance)
termination_by distance
decreasing_by omega

/-- The bias after an insertion: what was skipped before it, and how many characters
there are with it. -/
def adapt (distance count : Nat) (isFirst : Bool) : Nat :=
  let distance := if isFirst then distance / 700 else distance / 2
  let (times, rest) := shrink (distance + distance / count)
  times * base + base * rest / (rest + 38)

/-- The numbers and weights that are counted with: they have 32 bits. -/
def maxNumber : Nat := 4294967295

/-- A number with the digits in front of a text added, and the rest; a digit has a place,
which is counted in steps of the base, and a weight. -/
def addNumber? (bias : Nat) : Nat → Nat → Nat → List Char → Option (Nat × List Char)
  | _, _, _, [] => none
  | place, weight, n, c :: cs => do
    let d ← digit? c
    let n := n + d * weight
    let t := threshold place bias
    if maxNumber < n then none
    else if d < t then return (n, cs)
    else if maxNumber < weight * (base - t) then none
    else addNumber? bias (place + base) (weight * (base - t)) n cs

/-- A number takes at least one character.  It is why reading numbers one after the other comes to
an end. -/
theorem length_addNumber_lt {bias place weight n m : Nat} {cs rest : List Char}
    (h : addNumber? bias place weight n cs = some (m, rest)) : rest.length < cs.length := by
  induction cs generalizing place weight n with
  | nil => simp [addNumber?] at h
  | cons c cs ih =>
    rw [addNumber?] at h
    cases hd : digit? c with
    | none => simp [hd] at h
    | some d =>
      simp only [hd, Option.bind_eq_bind, Option.bind_some] at h
      split at h
      · simp at h
      · split at h
        · simp only [Option.pure_def, Option.some.injEq, Prod.mk.injEq] at h
          simp [h.2]
        · split at h
          · simp at h
          · exact Nat.lt_trans (ih h) (Nat.lt_succ_self _)

/-- A text with the characters inserted that follow as numbers: the next insertion is at
a place of the text or behind it, and its character is not before a code point. -/
def insertAll? (bias codePoint place : Nat) (text cs : List Char) : Option (List Char) :=
  match cs with
  | [] => some text
  | c :: rest =>
    match h : addNumber? bias base 1 place (c :: rest) with
    | none => none
    | some (steps, others) =>
      let count := text.length + 1
      let codePoint := codePoint + steps / count
      let index := steps % count
      if codePoint.isValidChar then
        insertAll? (adapt (steps - place) count (place == 0)) codePoint (index + 1)
          (text.insertIdx index (Char.ofNat codePoint)) others
      else none
termination_by cs.length
decreasing_by exact length_addNumber_lt h

/-- The text that a form stands for.  Without a character of ASCII there is no minus sign.  The part
behind the last minus sign says where the other characters go, as numbers that grow. -/
def decode? (cs : List Char) : Option (List Char) :=
  let numbers := (cs.reverse.takeWhile (· != '-')).reverse
  let plain := cs.take (cs.length - numbers.length - 1)
  if cs.head? = some '-' ∧ plain.isEmpty then none else insertAll? 72 0x80 0 plain numbers

end DesignHistory.HostName.Punycode
