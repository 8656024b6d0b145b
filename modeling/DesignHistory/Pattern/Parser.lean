import DesignHistory.Pattern.Bracket
import DesignHistory.Pattern.Weight
import DesignHistory.Text.Alphanumeric
import DesignHistory.Text.Decimal

/-!
# Reading patterns

The written form of patterns: parts one after the other, choices between bars,
groups in parentheses, and repetitions behind what they repeat.

## Main definitions

* `Pattern.readRepetition?`, `Pattern.readOpening?`: the count of a repetition, and
  the start of a group.
* `Pattern.readParts?`: the parts up to the end of a group.
* `Pattern.ofText?`: the pattern that a whole text describes.
-/

namespace DesignHistory.Pattern

/-! ### Repetitions -/

/-- The largest count of a repetition. -/
def maxCount : Nat := Decimal.maxUInt32

/-- The digits of a count, with the rest. -/
def readCountDigits (f : Flags) : List Char → List Char × List Char
  | [] => ([], [])
  | c :: cs =>
    if c.isDigit then
      let (digits, rest) := readCountDigits f (skipSpace f cs)
      (c :: digits, rest)
    else ([], c :: cs)
termination_by cs => cs.length
decreasing_by exact Nat.lt_succ_of_le (length_skipSpace_le f cs)

/-- A count with blanks around it, with the rest. -/
def readCount? (f : Flags) (cs : List Char) : Option (Nat × List Char) :=
  let (digits, rest) := readCountDigits f (cs.dropWhile Text.isBlank)
  let n := Decimal.value digits
  if digits.isEmpty || maxCount < n then none
  else some (n, skipSpace f (rest.dropWhile Text.isBlank))

/-- The bounds of a repetition. -/
structure Bounds where
  least : Nat
  most : Option Nat
deriving DecidableEq, Repr

/-- The bounds behind an opening brace up to the closing one, with the rest. -/
def readBounds? (f : Flags) (cs : List Char) : Option (Bounds × List Char) := do
  let (least, cs) ← readCount? f (skipSpace f cs)
  match cs with
  | '\x7d' :: rest => return (⟨least, some least⟩, skipSpace f rest)
  | ',' :: rest =>
    match skipSpace f rest with
    | '\x7d' :: rest => return (⟨least, none⟩, skipSpace f rest)
    | rest =>
      let (most, rest) ← readCount? f rest
      match rest with
      | '\x7d' :: rest =>
        if most < least then none else return (⟨least, some most⟩, skipSpace f rest)
      | _ => none
  | _ => none

/-- The repetition in front of a text, with the rest; the outer option says whether
there is one, the inner one whether it can be read. -/
def readRepetition? (f : Flags) : List Char → Option (Option (Bounds × List Char))
  | '?' :: cs => some (some (⟨0, some 1⟩, cs))
  | '*' :: cs => some (some (⟨0, none⟩, cs))
  | '+' :: cs => some (some (⟨1, none⟩, cs))
  | '\x7b' :: cs => some (readBounds? f cs)
  | _ => none

/-- Whether many repetitions are preferred to few, with the rest: a question mark
behind a repetition says that it is the other way around. -/
def readGreed (f : Flags) : List Char → Bool × List Char
  | '?' :: cs => (f.isLazy, cs)
  | cs => (!f.isLazy, cs)

/-! ### Groups -/

/-- Whether a text is the name of a group. -/
def isGroupName : List Char → Bool
  | [] => false
  | c :: cs =>
    (c == '_' || Text.isAlphabetic c)
      && cs.all fun c => c == '_' || c == '.' || c == '[' || c == ']' || Text.isAlphanumeric c

/-- The name of a group up to an angle, with the rest. -/
def readGroupName? (cs : List Char) : Option (Capture × List Char) :=
  let name := cs.takeWhile (· != '>')
  match cs.dropWhile (· != '>') with
  | '>' :: rest => if isGroupName name then some (.named name, rest) else none
  | _ => none

/-- What an opening parenthesis starts. -/
inductive Opening where
  | group (capture : Capture) (f : Flags)
  /-- No group, but a change of flags for the rest of the group around it. -/
  | flags (f : Flags)
deriving DecidableEq, Repr

/-- What an opening parenthesis in front of a text starts, with the rest.  Conditions on what stands
around a group are not known, and a text that has one is no pattern. -/
def readOpening? (f : Flags) (cs : List Char) : Option (Opening × List Char) :=
  match skipSpace f cs with
  | '?' :: '=' :: _ | '?' :: '!' :: _ | '?' :: '<' :: '=' :: _ | '?' :: '<' :: '!' :: _ => none
  | '?' :: 'P' :: '<' :: rest | '?' :: '<' :: rest =>
    (readGroupName? rest).map fun (capture, rest) => (.group capture f, rest)
  | '?' :: rest => do
    let (letters, rest) ← readFlags? [] rest
    match rest with
    | ':' :: rest => return (.group .unkept (f.change letters), rest)
    | ')' :: rest => if letters.isEmpty then none else return (.flags (f.change letters), rest)
    | _ => none
  | rest => some (.group .numbered f, rest)

/-! ### Patterns -/

/-- One character of a set. -/
def Flags.one (f : Flags) (set : CharSet) (brackets : Nat) : Pattern :=
  Pattern.one set (!f.allScripts) brackets

/-- A part that is no combination, with the rest, in a number of steps that is at least
twice the number of characters. -/
def readPrimitive? (steps : Nat) (f : Flags) : List Char → Option (Pattern × List Char)
  | '\\' :: cs => do
    let (primitive, rest) ← readEscape? f cs
    match primitive with
    | .literal c isByte => return (f.one (← f.literal? c isByte) 0, rest)
    | .set s => return (f.one s 0, rest)
    | .condition a => return (.holds a, rest)
  | '[' :: cs => (readBracket? steps f cs).map fun (b, rest) => (f.one b.set b.nesting, rest)
  | '.' :: cs => (f.anyChar?).map fun s => (f.one s 0, cs)
  | '^' :: cs => some (.holds (f.anchor true), cs)
  | '$' :: cs => some (.holds (f.anchor false), cs)
  | c :: cs => (f.literal? c false).map fun s => (f.one s 0, cs)
  | [] => none

/-- The parts read so far, the last one first, with a repetition of the last one;
there has to be one, and it must not be a change of flags. -/
def repeatLast? (b : Bounds) (isGreedy : Bool) : List Pattern → Option (List Pattern)
  | [] | .empty :: _ => none
  | p :: parts => some (.repeated p b.least b.most isGreedy :: parts)

/-- The choices read so far with the parts read last, all of them in reverse. -/
def endChoice (choices parts : List Pattern) : List Pattern := ofParts parts.reverse :: choices

/-- The pattern up to a closing parenthesis or the end of a text, with the rest,
after the choices and the parts read so far, the last ones first; only so many
parentheses may be open.  Each step takes a character at least. -/
def readParts? : Nat → Nat → Flags → List Pattern → List Pattern → List Char →
    Option (Pattern × List Char)
  | 0, _, _, _, _, _ => none
  | fuel + 1, room, f, choices, parts, cs =>
    match skipSpace f cs with
    | [] => some (ofChoices (endChoice choices parts).reverse, [])
    | ')' :: rest => some (ofChoices (endChoice choices parts).reverse, ')' :: rest)
    | '|' :: rest => readParts? fuel room f (endChoice choices parts) [] rest
    | '(' :: rest => do
      let (opening, rest) ← readOpening? f rest
      match opening, room with
      | .flags f, room => readParts? fuel room f choices (.empty :: parts) rest
      | .group _ _, 0 => none
      | .group capture inner, room + 1 =>
        match ← readParts? fuel room inner [] [] rest with
        | (p, ')' :: rest) =>
          readParts? fuel (room + 1) f choices (.group capture p :: parts) rest
        | _ => none
    | cs =>
      match readRepetition? f cs with
      | some repetition => do
        let (bounds, rest) ← repetition
        let (isGreedy, rest) := readGreed f rest
        readParts? fuel room f choices (← repeatLast? bounds isGreedy parts) rest
      | none => do
        let (p, rest) ← readPrimitive? fuel f cs
        readParts? fuel room f choices (p :: parts) rest

/-- Whether a pattern can be carried out. -/
def isUsable (p : Pattern) : Bool :=
  p.nesting ≤ maxNesting && p.names.Nodup && !p.hasScriptBoundary && !p.isTooHeavy

/-- **The pattern that a whole text describes, if it can be carried out.** One that can be read may
still be refused: for its nesting, for names that occur twice, for a boundary of words in all
scripts, and for its weight. -/
def ofText? (s : String) : Option Pattern := do
  let cs := s.toList
  match ← readParts? (3 * cs.length + 3) maxNesting {} [] [] cs with
  | (p, []) => if p.isUsable then some p else none
  | _ => none

end DesignHistory.Pattern
