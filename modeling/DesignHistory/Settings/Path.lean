import DesignHistory.Json.Place
import DesignHistory.Text.Decimal

/-!
# Paths of settings

A setting is named by a path: a name, then further names after points and indexes
in brackets, such as `database.max_connections` or `database[1]`.  A text that is
no path is one name as a whole.

## Main definitions

* `Settings.Path`: a name and the steps from there.
* `Settings.Path.ofText?`: reading a path.
* `Settings.Path.ofName`: a text as a path or as one name.
* `Settings.Path.isReachable`: whether there can be a place at a path.
-/

namespace DesignHistory.Settings

open Json (Step)

/-- A name, and the steps to a place within what it names.  The root is a name of its own because a
path without any name would denote the whole layer. -/
structure Path where
  root : String
  steps : List Step := []
deriving DecidableEq, Repr

namespace Path

/-- Whether a character can be part of a name. -/
def isNameChar (c : Char) : Bool := c.isAlphanum || c == '_' || c == '-' || c == ' '

/-- The name in front of a text, of at least one character, and the rest. -/
def readName? (cs : List Char) : Option (String × List Char) :=
  match cs.takeWhile isNameChar with
  | [] => none
  | name => some (String.ofList name, cs.dropWhile isNameChar)

/-- A text without the blanks in front. -/
def skipBlanks (cs : List Char) : List Char := cs.dropWhile fun c => c == ' ' || c == '\t'

/-- The digits in front of a text, of at least one digit, and the rest. -/
def readDigits? (cs : List Char) : Option (Nat × List Char) :=
  match cs.takeWhile Char.isDigit with
  | [] => none
  | digits => some (Decimal.value digits, cs.dropWhile Char.isDigit)

/-- The integer of 64 bits in front of a text, and the rest. -/
def readIndex? (cs : List Char) : Option (Int × List Char) := do
  let (index, rest) : Int × List Char ← match cs with
    | '-' :: cs => (readDigits? cs).map fun (n, rest) => (-(n : Int), rest)
    | cs => (readDigits? cs).map fun (n, rest) => ((n : Int), rest)
  if Decimal.fitsInt64 index then some (index, rest) else none

/-- The step in front of a text, and the rest. -/
def readStep? : List Char → Option (Step × List Char)
  | '.' :: cs => (readName? cs).map fun (name, rest) => (.member name, rest)
  | '[' :: cs => do
    let (index, rest) ← readIndex? (skipBlanks cs)
    match skipBlanks rest with
    | ']' :: rest => some (.item index, rest)
    | _ => none
  | _ => none

/-- The steps that a whole text consists of; each one takes at least one
character. -/
def readSteps? : Nat → List Char → Option (List Step)
  | _, [] => some []
  | 0, _ => none
  | fuel + 1, cs => do
    let (step, rest) ← readStep? cs
    return step :: (← readSteps? fuel rest)

/-- The path that a whole text describes. -/
def ofText? (cs : List Char) : Option Path := do
  let (root, rest) ← readName? cs
  return { root, steps := ← readSteps? rest.length rest }

/-- The path that a text describes, or the whole text as one name.  A name that is no path is
therefore no error: it is a member that nothing reads. -/
def ofName (cs : List Char) : Path := (ofText? cs).getD { root := String.ofList cs }

/-- The most items that there can be in a list. -/
def maxItems : Nat := 10000000

/-- Whether there can be lists that are long enough for the indexes of a path. -/
def isReachable (p : Path) : Bool :=
  p.steps.all fun step =>
    match step with
    | .item index => index.natAbs < maxItems
    | .member _ => true

end Path

end DesignHistory.Settings
