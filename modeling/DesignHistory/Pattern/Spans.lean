import DesignHistory.Pattern

/-!
# Where a pattern matches

The parts of a text that a pattern matches are kept as one number for each place of
the text, whose bit `n` says that the pattern matches the `n` characters from there.
This way every part of the pattern is looked at once, whatever repetitions it
consists of.

## Main definitions

* `Spans`: the parts of a text, by the place where they start.
* `Spans.comp`, `Spans.union`, `Spans.power`, `Spans.closure`: parts put together.
* `Pattern.spans`: the parts that a pattern matches.
* `Pattern.occursIn`: whether a pattern matches a part of a text.
-/

namespace DesignHistory

/-- Parts of a text, by the place where they start: a number for each place, the first bit of which
stands for the empty part.  Sets of parts are bit patterns, so that all ways to match are followed
at once and none is tried twice. -/
abbrev Spans := List Nat

namespace Spans

/-- The lengths that are reached from a place by a first part, whose lengths are
given, and a second one, whose lengths are given from there on. -/
def reach (lengths : Nat) : Spans → Nat
  | [] => 0
  | second :: rest =>
    (if lengths % 2 = 1 then second else 0) ||| 2 * reach (lengths / 2) rest

/-- Parts that consist of two parts. -/
def comp : Spans → Spans → Spans
  | first :: firsts, second :: seconds =>
    reach first (second :: seconds) :: comp firsts seconds
  | _, _ => []

/-- Parts of either kind. -/
def union (s t : Spans) : Spans := List.zipWith (· ||| ·) s t

/-- The empty parts. -/
def identity (places : Nat) : Spans := List.replicate places 1

/-- No parts. -/
def nowhere (places : Nat) : Spans := List.replicate places 0

/-- Parts that consist of a number of parts. -/
def iterated (s : Spans) : Nat → Spans
  | 0 => identity s.length
  | n + 1 => s.comp (s.iterated n)

/-- Parts that consist of a number of parts.  No more than the places of the text
have to be tried: a longer sequence has an empty part, which can be left out or
added once more. -/
def power (s : Spans) (n : Nat) : Spans := s.iterated (min n s.length)

/-- Parts that consist of any number of parts. -/
def closure : Spans → Spans
  | [] => []
  | first :: rest =>
    let rest := closure rest
    (1 ||| 2 * reach (first / 2) rest) :: rest

/-- Parts that consist of at least and at most some number of parts.  Beyond the least number, each
part may also be left out. -/
def between (s : Spans) (least : Nat) (most : Option Nat) : Spans :=
  match most with
  | some most =>
    if most < least then nowhere s.length
    else (s.power least).comp (((identity s.length).union s).power (most - least))
  | none => (s.power least).comp s.closure

end Spans

/-! ### Places -/

/-- Whether a character is part of a word. -/
def CharSet.isWordChar (c : Option Char) : Bool := c.any CharSet.wordChars.contains

/-- Whether a condition holds between two characters, none standing for an end of
the text.  Words are those of ASCII. -/
def Assertion.holdsBetween (before after : Option Char) : Assertion → Bool
  | textStart => before.isNone
  | textEnd => after.isNone
  | lineStart false => before.all (· == '\n')
  | lineEnd false => after.all (· == '\n')
  -- A carriage return and a line feed belong together.
  | lineStart true =>
    before.all (· == '\n') || (before == some '\r' && after != some '\n')
  | lineEnd true =>
    after.all (· == '\r') || (after == some '\n' && before != some '\r')
  | wordBoundary | scriptBoundary =>
    CharSet.isWordChar before != CharSet.isWordChar after
  | noWordBoundary => CharSet.isWordChar before == CharSet.isWordChar after
  | wordStart => !CharSet.isWordChar before && CharSet.isWordChar after
  | wordEnd => CharSet.isWordChar before && !CharSet.isWordChar after
  | wordStartHalf => !CharSet.isWordChar before
  | wordEndHalf => !CharSet.isWordChar after

/-- The places of a text where a condition holds, as empty parts. -/
def Assertion.spans (a : Assertion) (before : Option Char) : List Char → Spans
  | [] => [if a.holdsBetween before none then 1 else 0]
  | c :: cs => (if a.holdsBetween before (some c) then 1 else 0) :: a.spans (some c) cs

/-- The parts of a text that are one character of a set. -/
def CharSet.spans (s : CharSet) (text : List Char) : Spans :=
  (text.map fun c => if s.contains c then 2 else 0) ++ [0]

/-! ### Patterns -/

namespace Pattern

mutual

/-- **The parts of a text that a pattern matches**, by recursion on the pattern.  Which of several
parts would be preferred does not matter, because only whether there is one is asked. -/
def spans (text : List Char) : Pattern → Spans
  | empty => Spans.identity (text.length + 1)
  | one set _ _ => set.spans text
  | holds condition => condition.spans none text
  | group _ p => p.spans text
  | repeated p least most _ => (p.spans text).between least most
  | sequence parts => spansInOrder text (Spans.identity (text.length + 1)) parts
  | choice parts => spansOfAny text (Spans.nowhere (text.length + 1)) parts

/-- The parts of a text that start with given ones, on which several patterns follow. -/
def spansInOrder (text : List Char) (before : Spans) : List Pattern → Spans
  | [] => before
  | p :: rest => spansInOrder text (before.comp (p.spans text)) rest

/-- Given parts of a text, and those that one of several patterns matches. -/
def spansOfAny (text : List Char) (others : Spans) : List Pattern → Spans
  | [] => others
  | p :: rest => spansOfAny text (others.union (p.spans text)) rest

end

/-- Whether a pattern matches a part of a text. -/
def occursIn (p : Pattern) (text : String) : Bool := (p.spans text.toList).any (· != 0)

end Pattern

end DesignHistory
