import DesignHistory.Pattern.Escape

/-!
# Sets in brackets

A set of characters is written in brackets: characters, ranges, sets with names and
further brackets, and operations between such lists.

## Main definitions

* `Pattern.Bracket`: a set with the depth to which it is nested.
* `Pattern.readBracket?`: the set behind an opening bracket, and the rest.
-/

namespace DesignHistory.Pattern

/-- A set, and the depth to which it is nested. -/
structure Bracket where
  set : CharSet
  nesting : Nat := 0
deriving DecidableEq, Repr

namespace Bracket

/-- The set of what is in one of several sets. -/
def ofItems : List Bracket → Bracket
  | [] => { set := .empty }
  | [item] => item
  | items =>
    { set := .unions (items.map Bracket.set)
      nesting := items.foldl (fun n item => max n item.nesting) 0 + 1 }

/-- An operation between two lists. -/
inductive Operation where
  | inter
  | diff
  | symmDiff
deriving DecidableEq, Repr

/-- The set that an operation makes of two. -/
def Operation.apply (o : Operation) (s t : CharSet) : CharSet :=
  match o with
  | .inter => s.inter t
  | .diff => s.diff t
  | .symmDiff => s.symmDiff t

/-- The operation that two equal characters are. -/
def operation? (c d : Char) : Option Operation :=
  if c != d then none
  else if c = '&' then some .inter
  else if c = '-' then some .diff
  else if c = '~' then some .symmDiff
  else none

/-- What stands in front of an operation. -/
abbrev Left := Option (Bracket × Operation)

/-- The set of the items read last, put together with what stands in front. -/
def join (left : Left) (items : List Bracket) : Bracket :=
  let right := ofItems items.reverse
  match left with
  | none => right
  | some (left, o) =>
    { set := o.apply left.set right.set, nesting := max left.nesting right.nesting + 1 }

/-- The set within a pair of brackets. -/
def close? (f : Flags) (isNegated : Bool) (inner : Bracket) : Option Bracket := do
  let set ← if isNegated then f.negated? inner.set else some inner.set
  return { set, nesting := inner.nesting + 1 }

end Bracket

/-! ### Items -/

/-- A set with a name behind an opening bracket, with the rest; none if there is no
such name, and then the bracket opens a list. -/
def readNamed? (cs : List Char) : Option (Bool × CharSet × List Char) :=
  match cs with
  | ':' :: cs =>
    let (isNegated, cs) := match cs with
      | '^' :: cs => (true, cs)
      | cs => (false, cs)
    match cs.dropWhile (· != ':') with
    | ':' :: ']' :: rest =>
      (CharSet.ofName? (String.ofList (cs.takeWhile (· != ':')))).map (isNegated, ·, rest)
    | _ => none
  | _ => none

/-- One character of a list, or an escape. -/
def readItem? (f : Flags) : List Char → Option (Primitive × List Char)
  | '\\' :: cs => readEscape? f cs
  | c :: cs => some (.literal c false, cs)
  | [] => none

/-- The set that an item of a list is. -/
def itemSet? (f : Flags) : Primitive → Option CharSet
  | .literal c isByte =>
    if f.allScripts || c.toNat < 0x80 then f.literal? c isByte else none
  | .set s => f.set? s
  | .condition _ => none

/-- The character that comes next, over blanks and the sign of a comment. -/
def peek? (f : Flags) (cs : List Char) : Option Char :=
  if f.spaced then
    match cs.dropWhile Text.isBlank with
    | '#' :: rest => (rest.dropWhile Text.isBlank).head?
    | rest => rest.head?
  else cs.head?

/-- A character, an escape or a range, with the rest.  A minus sign makes a range
unless it stands in front of a closing bracket or another minus sign. -/
def readRange? (f : Flags) (cs : List Char) : Option (CharSet × List Char) := do
  let (low, cs) ← readItem? f cs
  match skipSpace f cs with
  | [] => none
  | '-' :: rest =>
    if peek? f rest = some ']' ∨ peek? f rest = some '-' then
      return (← itemSet? f low, '-' :: rest)
    else
      let (high, rest) ← readItem? f (skipSpace f rest)
      match low, high with
      | .literal low _, .literal high _ => return (← f.range? low high, rest)
      | _, _ => none
  | cs => return (← itemSet? f low, cs)

/-! ### Lists -/

/-- The minus signs in front of a list, with the rest. -/
def readMinuses (f : Flags) : List Char → List Char × List Char
  | [] => ([], [])
  | c :: cs =>
    if c = '-' then
      let (minuses, rest) := readMinuses f (skipSpace f cs)
      ('-' :: minuses, rest)
    else ([], c :: cs)
termination_by cs => cs.length
decreasing_by exact Nat.lt_succ_of_le (length_skipSpace_le f cs)

/-- The start of a list: whether it is negated, its first items, which are minus
signs or a closing bracket, and the rest. -/
def openBracket (f : Flags) (cs : List Char) : Bool × List Char × List Char :=
  let cs := skipSpace f cs
  let (isNegated, cs) := if cs.head? = some '^' then (true, skipNext f cs) else (false, cs)
  let (minuses, cs) := readMinuses f cs
  if minuses.isEmpty ∧ cs.head? = some ']' then (isNegated, [']'], skipNext f cs)
  else (isNegated, minuses, cs)

mutual

/-- The set behind an opening bracket, and the rest; only so many brackets may be
open. -/
def readBracketWith? (f : Flags) : Nat → Nat → List Char → Option (Bracket × List Char)
  | 0, _, _ | _, 0, _ => none
  | fuel + 1, room + 1, cs => do
    let (isNegated, first, cs) := openBracket f cs
    let items ← first.mapM fun c => (f.literal? c false).map fun set => { set : Bracket }
    readList? f fuel room isNegated none items.reverse cs

/-- The rest of a list, after its items so far in reverse. -/
def readList? (f : Flags) : Nat → Nat → Bool → Bracket.Left → List Bracket → List Char →
    Option (Bracket × List Char)
  | 0, _, _, _, _, _ => none
  | fuel + 1, room, isNegated, left, items, cs =>
    match skipSpace f cs with
    | [] => none
    | ']' :: rest => (Bracket.close? f isNegated (.join left items)).map (·, rest)
    | '[' :: rest =>
      match readNamed? rest with
      | some (isNamedNegated, set, rest) => do
        let set ← f.set? set
        let set ← if isNamedNegated then f.negated? set else some set
        readList? f fuel room isNegated left ({ set } :: items) rest
      | none => do
        let (item, rest) ← readBracketWith? f fuel room rest
        readList? f fuel room isNegated left (item :: items) rest
    | c :: rest =>
      match rest.head?.bind (Bracket.operation? c) with
      | some o => readList? f fuel room isNegated (some (.join left items, o)) [] (rest.drop 1)
      | none => do
        let (set, rest) ← readRange? f (c :: rest)
        readList? f fuel room isNegated left ({ set } :: items) rest

end

/-- The set behind an opening bracket, and the rest.  The number of steps is at least
twice the number of characters. -/
def readBracket? (steps : Nat) (f : Flags) (cs : List Char) : Option (Bracket × List Char) :=
  readBracketWith? f steps (maxNesting + 1) cs

end DesignHistory.Pattern
