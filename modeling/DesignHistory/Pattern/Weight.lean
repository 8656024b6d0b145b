import DesignHistory.Pattern.Form
import Std.Data.HashMap

/-!
# The weight of a pattern

A pattern is carried out by two automata, one for each direction in which a text is
read.  They read bytes, and every copy of a repeated pattern has states of its own, so
that counted repetitions within each other could use up the memory.  A pattern is
refused if one of its automata takes too many bytes.

## Main definitions

* `Extent`: how large a part of an automaton is.
* `Form.build`: an automaton with the states for a form added.
* `Form.extent`: the automaton of a form.
* `Pattern.isTooHeavy`: whether one of the automata takes too many bytes.

The states for one character of a set share their ends or their starts, as far as a
table of limited size remembers them: a state takes the slot of another one whose key
has the same hash.
-/

namespace DesignHistory

/-- How large a part of an automaton is.  Only the sizes are worked out, and no automaton is ever
built. -/
structure Extent where
  states : Nat := 0
  /-- The bytes of the ways out of the states. -/
  ways : Nat := 0
deriving DecidableEq, Repr

namespace Extent

/-- With some more states and ways. -/
def add (e : Extent) (states ways : Nat) : Extent := ⟨e.states + states, e.ways + ways⟩

/-- The bytes of a state without its ways. -/
def stateWeight : Nat := 32

/-- The bytes of a way to another state. -/
def wayWeight : Nat := 4

/-- The bytes of a way that is taken for a range of bytes only. -/
def rangeWeight : Nat := 8

/-- The bytes that an automaton takes. -/
def bytes (e : Extent) : Nat := stateWeight * e.states + e.ways

/-- The bytes that an automaton may take. -/
def maxBytes : Nat := 10485760

/-- Whether an automaton takes too many bytes. -/
def isTooLarge (e : Extent) : Bool := maxBytes < e.bytes

/-- An automaton extended a number of times, unless it is too large already. -/
def times (extend : Extent → Extent) : Nat → Extent → Extent
  | 0, e => e
  | n + 1, e => if e.isTooLarge then e else times extend n (extend e)

end Extent

/-! ### Shared states -/

/-- An automaton whose states are numbered, and a table of those that can be shared, which remembers
the key and the number of one state in each slot.  Which states are shared depends on the order in
which they come, so the table cannot be replaced by a set of keys. -/
structure Sharing where
  extent : Extent
  slots : Nat
  table : Std.HashMap Nat (List Nat × Nat) := {}

namespace Sharing

/-- The slot of a key. -/
def slot (s : Sharing) (key : List Nat) : Nat :=
  let hash := key.foldl (fun h n => (h ^^^ UInt64.ofNat n) * 1099511628211) 14695981039346656037
  UInt64.toNat hash % s.slots

/-- The number of the state for a key: the one in the table, or else a new one, which
has ways of some bytes. -/
def state (s : Sharing) (key : List Nat) (ways : Nat) : Nat × Sharing :=
  let new := s.extent.states
  let added := { s with
    extent := s.extent.add 1 ways
    table := s.table.insert (s.slot key) (key, new) }
  match s.table[s.slot key]? with
  | some (other, state) => if other = key then (state, s) else (new, added)
  | none => (new, added)

/-- The number of the state from which sequences of ranges of bytes lead to a last
state: it has one way for each first range, and sequences next to each other share the
ways that they have in common.  The sequences have at most so many ranges. -/
def start (last : Nat) : Nat → List (List (Nat × Nat)) → Sharing → Nat × Sharing
  | 0, _, s => (last, s)
  | length + 1, sequences, s =>
    if sequences.all List.isEmpty then (last, s)
    else
      let groups := sequences.splitBy fun a b => a.head? == b.head?
      let (key, s) := groups.foldl (fun (key, s) group =>
        let (next, s) := start last length (group.map List.tail) s
        let range := (group.head?.bind List.head?).getD (0, 0)
        (key ++ [range.1, range.2, next], s)) ([], s)
      s.state key (Extent.rangeWeight * groups.length)

/-- The number of the state from which a sequence of ranges of bytes leads backward to
a last state. -/
def startBackward (last : Nat) (sequence : List (Nat × Nat)) (s : Sharing) : Nat × Sharing :=
  sequence.foldl (fun (last, s) (low, high) => s.state [last, low, high] 0) (last, s)

end Sharing

/-- An automaton with the states for one character of a set.  Ranges of ASCII are the
ways of one state. -/
def CharSet.build (set : CharSet) (isBytes isBackward : Bool) (e : Extent) : Extent :=
  let sequences := set.ranges.flatMap fun r => Text.Utf8.sequences r.1 r.2
  if isBytes || set.ranges.all fun r => r.2 < 0x80 then
    e.add 2 (Extent.rangeWeight * set.ranges.length)
  else if isBackward then
    let s : Sharing :=
      { extent := e.add 2 (Extent.wayWeight * sequences.length), slots := 1000 }
    (sequences.foldl (fun s sequence => (s.startBackward (e.states + 1) sequence).2) s).extent
  else (Sharing.start e.states 4 sequences { extent := e.add 1 0, slots := 10000 }).2.extent

namespace Form

/-! ### Choices of literals -/

/-- Words without all but one of the empty words in front. -/
def dropEmpty : List (List Nat) → List (List Nat)
  | [] :: [] :: words => dropEmpty ([] :: words)
  | words => words

/-- An automaton with the states for a choice of words, the ends apart.  Words that
start alike share their states, but not over a word that ends there.  The words have
at most so many bytes. -/
def buildWords : Nat → List (List Nat) → Extent → Extent
  | 0, _, e => e
  | length + 1, words, e =>
    if words.all List.isEmpty then e
    else
      let runs := (dropEmpty words).splitOnP List.isEmpty
      let e := e.add 1 (Extent.wayWeight * (runs.length - 1))
      (runs.filter fun run => !run.isEmpty).foldl (fun e run =>
        let first := (run.filterMap List.head?).eraseDups
        let ways := if first.length = 1 then 0 else Extent.rangeWeight * first.length
        first.foldl (fun e byte =>
          let rests := run.filter fun word => word.head? == some byte
          buildWords length (rests.map List.tail) e) (e.add 1 (Extent.wayWeight + ways))) e

/-- The characters of a literal. -/
def literal? : Form → Option (List Char)
  | literal cs => some cs
  | _ => none

/-- The bytes of a literal in the order in which they are read. -/
def bytesOf (isBackward : Bool) (cs : List Char) : List Nat :=
  let bytes := cs.flatMap fun c => Text.Utf8.encode c.toNat
  if isBackward then bytes.reverse else bytes

/-! ### All forms -/

mutual

/-- An automaton with the states for a form added.  A repetition adds a copy of its part for each
time that it can be repeated, which is how a short text can stand for a large automaton. -/
def build (isBackward : Bool) : Form → Extent → Extent
  | empty, e | holds _, e => e.add 1 0
  | literal cs, e => e.add (bytesOf isBackward cs).length 0
  | one set isBytes, e => set.build isBytes isBackward e
  | kept p, e =>
    if isBackward then p.build isBackward e else (p.build isBackward (e.add 1 0)).add 1 0
  | repeated p least most _, e =>
    let copies := Extent.times (p.build isBackward)
    -- A state with two ways stands in front of a part that may be left out.
    let optional := fun e : Extent => p.build isBackward (e.add 1 (2 * Extent.wayWeight))
    match most with
    | none =>
      if 0 < least then (copies least e).add 1 (2 * Extent.wayWeight)
      else if p.isSolid then optional e
      else (p.build isBackward e).add 3 (4 * Extent.wayWeight)
    | some most =>
      if least = 0 ∧ most = 1 then (optional e).add 1 0
      else
        let e := if least = 0 then e.add 1 0 else copies least e
        if most ≤ least then e else Extent.times optional (most - least) (e.add 1 0)
  | sequence parts, e => buildInOrder isBackward parts e
  | choice parts, e =>
    match parts.mapM literal? with
    | some words =>
      let words := words.map (bytesOf isBackward)
      buildWords (words.foldl (fun n word => max n word.length) 0) words (e.add 1 0)
    | none => buildAny isBackward 0 parts (e.add 0 (Extent.wayWeight * parts.length))

/-- An automaton with the states for several forms one after the other added. -/
def buildInOrder (isBackward : Bool) : List Form → Extent → Extent
  | [], e => e
  | p :: rest, e => buildInOrder isBackward rest (p.build isBackward e)

/-- An automaton with the states for one of several forms added, of which some are
there already.  The start and the end of the choice come behind the second form. -/
def buildAny (isBackward : Bool) (present : Nat) : List Form → Extent → Extent
  | [], e => e
  | p :: rest, e =>
    let e := p.build isBackward e
    buildAny isBackward (present + 1) rest (if present = 1 then e.add 2 0 else e)

end

mutual

/-- Whether all parts that match start where a condition holds. -/
def startsWith (condition : Assertion) : Form → Bool
  | empty | literal _ | one _ _ => false
  | holds other => other == condition
  | kept p => p.startsWith condition
  | repeated p least _ _ => 0 < least && p.startsWith condition
  | sequence parts => startsInOrder condition parts
  | choice parts => startsAny condition parts

/-- Whether several forms one after the other start where a condition holds. -/
def startsInOrder (condition : Assertion) : List Form → Bool
  | [] => false
  | p :: rest => p.startsWith condition || (p.isHollow && startsInOrder condition rest)

/-- Whether any of several forms starts where a condition holds. -/
def startsAny (condition : Assertion) : List Form → Bool
  | [] => true
  | p :: rest => p.startsWith condition && startsAny condition rest

end

/-- The automaton of a form.  In front it skips bytes up to the start of a part, unless all parts
start at the end of the text from which it is read.  What groups match is kept when a text is read
forward, and so is the whole part. -/
def extent (isBackward : Bool) (p : Form) : Extent :=
  let (p, condition) := if isBackward then (p.backward, Assertion.textEnd) else (p, .textStart)
  let front : Extent :=
    if p.startsWith condition then { states := 1 }
    else { states := 3, ways := 2 * Extent.wayWeight + Extent.rangeWeight }
  ((kept p).build isBackward front).add 1 0

end Form

/-- Whether one of the automata of a pattern takes too many bytes. -/
def Pattern.isTooHeavy (p : Pattern) : Bool :=
  let form := p.form
  (form.extent false).isTooLarge || (form.extent true).isTooLarge

end DesignHistory
