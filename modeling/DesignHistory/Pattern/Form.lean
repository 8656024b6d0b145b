import DesignHistory.Pattern
import DesignHistory.Text.Utf8

/-!
# Simple forms of patterns

Before a pattern is carried out it is brought into a simple form: characters one after
the other are one literal, combinations do not stand directly within combinations of
their kind, a choice of characters or sets is one set, and what all parts of a choice
start with stands in front of it.

## Main definitions

* `Form`: the simple forms.
* `Form.ofSet`, `Form.ofParts`, `Form.ofChoices`, `Form.ofRepeated`: the forms of
  combinations.
* `Pattern.form`: the form of a pattern.
* `Form.backward`: the form for a text that is read backward.
* `Form.minLength?`, `Form.maxLength?`: bounds on the bytes of the parts that match.
-/

namespace DesignHistory

/-- The simple form of a pattern.  Empty parts, single choices and sequences within sequences are
gone, which is what the size of an automaton is measured by. -/
inductive Form where
  | empty
  | literal (cs : List Char)
  | one (set : CharSet) (isBytes : Bool)
  | holds (condition : Assertion)
  /-- A group whose part is kept. -/
  | kept (p : Form)
  | repeated (p : Form) (least : Nat) (most : Option Nat) (isGreedy : Bool)
  | sequence (parts : List Form)
  | choice (parts : List Form)
deriving Repr

namespace Form

/-! ### Measures -/

mutual

/-- The number of forms that a form consists of. -/
def size : Form → Nat
  | empty | literal _ | one _ _ | holds _ => 1
  | kept p => p.size + 1
  | repeated p _ _ _ => p.size + 1
  | sequence parts => sizeOf 1 parts
  | choice parts => sizeOf 1 parts

/-- The number of forms that several forms consist of, added to another number. -/
def sizeOf (n : Nat) : List Form → Nat
  | [] => n
  | p :: rest => sizeOf (n + p.size) rest

end

mutual

/-- The fewest bytes of a part that matches, none if nothing ever matches.  Characters count for as
many bytes as they are written with. -/
def minLength? : Form → Option Nat
  | empty | holds _ => some 0
  | literal cs => some (cs.map fun c => (Text.Utf8.encode c.toNat).length).sum
  | one set _ => set.ranges.head?.map fun r => (Text.Utf8.encode r.1).length
  | kept p => p.minLength?
  | repeated p least _ _ => p.minLength?.map (· * least)
  | sequence parts => minLengthInOrder 0 parts
  | choice parts => minLengthOfAny none parts

/-- The fewest bytes of several forms one after the other, added to others. -/
def minLengthInOrder (n : Nat) : List Form → Option Nat
  | [] => some n
  | p :: rest =>
    match p.minLength? with
    | some m => minLengthInOrder (n + m) rest
    | none => none

/-- The fewest bytes of one of several forms, all of which match something, or of
others. -/
def minLengthOfAny (n : Option Nat) : List Form → Option Nat
  | [] => n
  | p :: rest =>
    match p.minLength? with
    | some m => minLengthOfAny (some (min m (n.getD m))) rest
    | none => none

end

mutual

/-- The most bytes of a part that matches, none if there is no bound or nothing ever
matches. -/
def maxLength? : Form → Option Nat
  | empty | holds _ => some 0
  | literal cs => some (cs.map fun c => (Text.Utf8.encode c.toNat).length).sum
  | one set _ => set.ranges.getLast?.map fun r => (Text.Utf8.encode r.2).length
  | kept p => p.maxLength?
  | repeated p _ most _ =>
    match most, p.maxLength? with
    | some most, some n => some (n * most)
    | _, _ => none
  | sequence parts => maxLengthInOrder 0 parts
  | choice parts => maxLengthOfAny 0 parts

/-- The most bytes of several forms one after the other, added to others. -/
def maxLengthInOrder (n : Nat) : List Form → Option Nat
  | [] => some n
  | p :: rest =>
    match p.maxLength? with
    | some m => maxLengthInOrder (n + m) rest
    | none => none

/-- The most bytes of one of several forms or of others. -/
def maxLengthOfAny (n : Nat) : List Form → Option Nat
  | [] => some n
  | p :: rest =>
    match p.maxLength? with
    | some m => maxLengthOfAny (max n m) rest
    | none => none

end

/-- Whether no part that matches is empty. -/
def isSolid (p : Form) : Bool := p.minLength?.any (0 < ·)

/-- Whether all parts that match are empty. -/
def isHollow (p : Form) : Bool := p.maxLength? == some 0

/-! ### Equality -/

mutual

/-- Whether two forms in different places are equal; what they keep is not. -/
def same : Form → Form → Bool
  | empty, empty => true
  | literal cs, literal ds => cs == ds
  | one s isBytes, one t isBytes' => s == t && isBytes == isBytes'
  | holds a, holds b => a == b
  | repeated p least most isGreedy, repeated q least' most' isGreedy' =>
    least == least' && most == most' && isGreedy == isGreedy' && p.same q
  | sequence ps, sequence qs => sameParts ps qs
  | choice ps, choice qs => sameParts ps qs
  | _, _ => false

/-- Whether several forms are equal in pairs. -/
def sameParts : List Form → List Form → Bool
  | [], [] => true
  | p :: ps, q :: qs => p.same q && sameParts ps qs
  | _, _ => false

end

/-- How many forms two lists have in common at their start. -/
def commonLength : List Form → List Form → Nat
  | p :: ps, q :: qs => if p.same q then commonLength ps qs + 1 else 0
  | _, _ => 0

/-! ### Combinations -/

/-- The form that matches nothing. -/
def never : Form := one .empty true

/-- The form of one character of a set. -/
def ofSet (set : CharSet) (isBytes : Bool) : Form :=
  match set.ranges with
  | [] => never
  | [(low, high)] => if low = high then literal [Char.ofNat low] else one set isBytes
  | _ => one set isBytes

/-- The form of a repetition.  Something empty is there already if it is there once.  Neither a
repetition of exactly one nor one of none is left in the form. -/
def ofRepeated (p : Form) (least : Nat) (most : Option Nat) (isGreedy : Bool) : Form :=
  let (least, most) :=
    if p.isHollow then (min least 1, some (min (most.getD 1) 1)) else (least, most)
  if most = some 0 then empty
  else if least = 1 ∧ most = some 1 then p
  else repeated p least most isGreedy

/-- The forms that a form stands for within a sequence. -/
def parts : Form → List Form
  | empty => []
  | sequence parts => parts
  | p => [p]

/-- A form in front of others, where two literals are one. -/
def consLiteral (p : Form) (rest : List Form) : List Form :=
  match p, rest with
  | literal cs, literal ds :: rest => literal (cs ++ ds) :: rest
  | p, rest => p :: rest

/-- The form of several forms one after the other. -/
def ofParts (ps : List Form) : Form :=
  match (ps.flatMap parts).foldr consLiteral [] with
  | [] => empty
  | [p] => p
  | ps => sequence ps

/-- The forms that a form stands for within a choice. -/
def choices : Form → List Form
  | choice ps => ps
  | p => [p]

/-- The set of a literal of one character. -/
def singleton? : Form → Option CharSet
  | literal [c] => some (.single c)
  | _ => none

/-- The set that a form is. -/
def set? : Form → Option CharSet
  | one set _ => some set
  | _ => none

/-- The parts of a sequence. -/
def sequence? : Form → Option (List Form)
  | sequence parts => some parts
  | _ => none

/-- The form of one of several forms: characters alone or sets alone are a set, and
sequences that start alike are cut behind their common start.  There is nothing left to
cut after as many times as there are forms. -/
def ofChoicesWith : Nat → List Form → Form
  | 0, ps => choice ps
  | fuel + 1, ps =>
    match ps.flatMap choices with
    | [] => never
    | [p] => p
    | ps =>
      match (ps.mapM singleton?).or (ps.mapM set?), ps.mapM sequence? with
      | some sets, _ => ofSet (.unions sets) false
      | none, some (first :: others) =>
        let n := others.foldl (fun n other => min n (commonLength first other)) first.length
        if n = 0 then choice ps
        else
          let rests := (first :: others).map fun parts => ofParts (parts.drop n)
          ofParts (first.take n ++ [ofChoicesWith fuel rests])
      | none, _ => choice ps

/-- The form of one of several forms. -/
def ofChoices (ps : List Form) : Form := ofChoicesWith (sizeOf 1 ps) ps

/-! ### Reading backward -/

mutual

/-- The form for a text that is read backward, with the parts of sequences in reverse. -/
def backward : Form → Form
  | kept p => kept p.backward
  | repeated p least most isGreedy => repeated p.backward least most isGreedy
  | sequence parts => sequence (backwardParts [] parts)
  | choice parts => choice (backwardParts [] parts).reverse
  | p => p

/-- Several forms for a text that is read backward, the last one first, in front of
others. -/
def backwardParts (later : List Form) : List Form → List Form
  | [] => later
  | p :: rest => backwardParts (p.backward :: later) rest

end

end Form

mutual

/-- **The simple form of a pattern.** Groups whose part is not kept leave no trace in it, and
neither do the names of the others. -/
def Pattern.form : Pattern → Form
  | .empty => .empty
  | .one set isBytes _ => .ofSet set isBytes
  | .holds condition => .holds condition
  | .group .unkept p => p.form
  | .group _ p => .kept p.form
  | .repeated p least most isGreedy => .ofRepeated p.form least most isGreedy
  | .sequence parts => .ofParts (Pattern.forms [] parts).reverse
  | .choice parts => .ofChoices (Pattern.forms [] parts).reverse

/-- The simple forms of several patterns, the last one first, in front of others. -/
def Pattern.forms (earlier : List Form) : List Pattern → List Form
  | [] => earlier
  | p :: rest => forms (p.form :: earlier) rest

end

end DesignHistory
