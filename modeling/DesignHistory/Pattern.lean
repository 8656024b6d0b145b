import DesignHistory.Pattern.CharSet

/-!
# Patterns

A pattern describes a part of a text: characters of certain sets, conditions on the
place between two characters, and combinations of patterns.

## Main definitions

* `Assertion`: a condition on a place.
* `Pattern`: the patterns.
* `Pattern.nesting`: how deep a pattern is nested.
* `Pattern.names`: the names of its groups.
-/

namespace DesignHistory

/-- A condition on the place between two characters of a text.  It matches the empty part only, and
looks at the two characters beside the place. -/
inductive Assertion where
  | textStart
  | textEnd
  /-- The start of a line; lines may also end with a carriage return. -/
  | lineStart (carriageReturns : Bool)
  | lineEnd (carriageReturns : Bool)
  | wordBoundary
  | noWordBoundary
  | wordStart
  | wordEnd
  /-- No part of a word in front. -/
  | wordStartHalf
  /-- No part of a word behind. -/
  | wordEndHalf
  /-- A condition on words of all scripts. -/
  | scriptBoundary
deriving DecidableEq, Repr

/-- What is kept of the part that a group matches. -/
inductive Capture where
  | unkept
  | numbered
  | named (name : List Char)
deriving DecidableEq, Repr

/-- A pattern.  Groups are kept although nothing asks what they match: their names have to be
distinct, and they count for the size of what is built. -/
inductive Pattern where
  /-- The empty text. -/
  | empty
  /-- One character of a set, which is written with nested brackets; `isBytes` says that
  it was written as a set of bytes. -/
  | one (set : CharSet) (isBytes : Bool) (brackets : Nat)
  | holds (condition : Assertion)
  | group (capture : Capture) (p : Pattern)
  /-- A number of times, without an upper bound if there is none; `isGreedy` says that
  many times are preferred to few. -/
  | repeated (p : Pattern) (least : Nat) (most : Option Nat) (isGreedy : Bool)
  | sequence (parts : List Pattern)
  | choice (parts : List Pattern)
deriving Repr

namespace Pattern

/-- Several patterns one after the other. -/
def ofParts : List Pattern → Pattern
  | [] => empty
  | [p] => p
  | parts => sequence parts

/-- One of several patterns. -/
def ofChoices : List Pattern → Pattern
  | [] => empty
  | [p] => p
  | parts => choice parts

/-- How deep a pattern may be nested. -/
def maxNesting : Nat := 250

mutual

/-- How many combinations stand within each other.  It is bounded when a pattern is read, so that no
recursion over it can become too deep. -/
def nesting : Pattern → Nat
  | empty | holds _ => 0
  | one _ _ brackets => brackets
  | group _ p => p.nesting + 1
  | repeated p _ _ _ => p.nesting + 1
  | sequence parts => nestingOf 0 parts + 1
  | choice parts => nestingOf 0 parts + 1

/-- The deepest nesting of several patterns, and of those before them. -/
def nestingOf (deepest : Nat) : List Pattern → Nat
  | [] => deepest
  | p :: rest => nestingOf (max deepest p.nesting) rest

end

mutual

/-- The names of the groups, in front of others. -/
def namesWith (names : List (List Char)) : Pattern → List (List Char)
  | empty | holds _ | one _ _ _ => names
  | group (.named name) p => p.namesWith (name :: names)
  | group _ p => p.namesWith names
  | repeated p _ _ _ => p.namesWith names
  | sequence parts => namesOf names parts
  | choice parts => namesOf names parts

/-- The names of the groups of several patterns, in front of others. -/
def namesOf (names : List (List Char)) : List Pattern → List (List Char)
  | [] => names
  | p :: rest => namesOf (p.namesWith names) rest

end

/-- The names of the groups. -/
def names (p : Pattern) : List (List Char) := p.namesWith []

mutual

/-- Whether a pattern has a condition on words of all scripts.  What is repeated no
time does not count. -/
def hasScriptBoundary : Pattern → Bool
  | empty | one _ _ _ => false
  | holds condition => condition == .scriptBoundary
  | group _ p => p.hasScriptBoundary
  | repeated _ _ (some 0) _ => false
  | repeated p _ _ _ => p.hasScriptBoundary
  | sequence parts => anyScriptBoundary parts
  | choice parts => anyScriptBoundary parts

/-- Whether one of several patterns has a condition on words of all scripts. -/
def anyScriptBoundary : List Pattern → Bool
  | [] => false
  | p :: rest => p.hasScriptBoundary || anyScriptBoundary rest

end

end Pattern

end DesignHistory
