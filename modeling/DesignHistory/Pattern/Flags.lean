import DesignHistory.Pattern
import DesignHistory.Text.Blank

/-!
# Flags of patterns

Flags change how the rest of a group is read, among them one by which blanks and
comments between the parts of a pattern do not count.

## Main definitions

* `Pattern.Flags`: the flags.
* `Pattern.readFlags?`, `Pattern.Flags.change`: reading a change of flags, and
  making it.
* `Pattern.skipSpace`: a text without what does not count in front.
* `Pattern.Flags.literal?`, `Pattern.Flags.set?`, `Pattern.Flags.negated?`,
  `Pattern.Flags.anyChar?`, `Pattern.Flags.anchor`: what characters, sets and
  conditions stand for.

Characters of all scripts are told apart, but neither their case nor their kinds are
known: where a pattern needs these, it is refused, unless a flag restricts it to
ASCII.  A pattern so restricted is refused where it could match a part of a
character beyond ASCII.
-/

namespace DesignHistory.Pattern

/-- How a pattern is read.  Flags hold up to the end of the group in which they are set, and are
therefore passed along the text and never stored in a pattern. -/
structure Flags where
  /-- Letters stand for both cases. -/
  anyCase : Bool := false
  /-- Lines have starts and ends. -/
  multiLine : Bool := false
  /-- A point stands for ends of lines, too. -/
  pointIsAll : Bool := false
  /-- Lines may also end with a carriage return. -/
  carriageReturns : Bool := false
  /-- Blanks and comments do not count. -/
  spaced : Bool := false
  /-- Few repetitions are preferred to many. -/
  isLazy : Bool := false
  /-- Characters are those of all scripts. -/
  allScripts : Bool := true
deriving DecidableEq, Repr

/-! ### Changes -/

/-- The letters of a change of flags up to its end, after those read so far in
reverse; a letter, or a minus sign, stands once, and the minus sign not at the end. -/
def readFlags? (read : List Char) : List Char → Option (List Char × List Char)
  | [] => none
  | c :: cs =>
    if c = ':' ∨ c = ')' then
      if read.head? = some '-' then none else some (read.reverse, c :: cs)
    else if "imsURux-".toList.contains c && !read.contains c then readFlags? (c :: read) cs
    else none

/-- The flags with one of them set. -/
def Flags.set (f : Flags) (letter : Char) (value : Bool) : Flags :=
  if letter = 'i' then { f with anyCase := value }
  else if letter = 'm' then { f with multiLine := value }
  else if letter = 's' then { f with pointIsAll := value }
  else if letter = 'R' then { f with carriageReturns := value }
  else if letter = 'x' then { f with spaced := value }
  else if letter = 'U' then { f with isLazy := value }
  else if letter = 'u' then { f with allScripts := value }
  else f

/-- The flags after a change: letters set flags, and after a minus sign unset them. -/
def Flags.change (f : Flags) (letters : List Char) : Flags :=
  let on := letters.takeWhile (· != '-')
  let off := (letters.dropWhile (· != '-')).drop 1
  off.foldl (fun f c => f.set c false) (on.foldl (fun f c => f.set c true) f)

/-! ### Blanks and comments -/

/-- A text without the blanks and comments in front; `inComment` says that the text
starts within a comment, which goes up to the end of its line. -/
def skipComments (inComment : Bool) : List Char → List Char
  | [] => []
  | c :: cs =>
    if inComment then skipComments (c != '\n') cs
    else if Text.isBlank c then skipComments false cs
    else if c = '#' then skipComments true cs
    else c :: cs

/-- A text without what does not count in front. -/
def skipSpace (f : Flags) (cs : List Char) : List Char :=
  if f.spaced then skipComments false cs else cs

theorem length_skipComments_le (inComment : Bool) (cs : List Char) :
    (skipComments inComment cs).length ≤ cs.length := by
  induction cs generalizing inComment with
  | nil => simp [skipComments]
  | cons c cs ih =>
    have hc := ih (c != '\n')
    have ht := ih true
    have hf := ih false
    rw [skipComments]
    split
    · simp only [List.length_cons]; omega
    · split
      · simp only [List.length_cons]; omega
      · split
        · simp only [List.length_cons]; omega
        · exact Nat.le_refl _

theorem length_skipSpace_le (f : Flags) (cs : List Char) :
    (skipSpace f cs).length ≤ cs.length := by
  rw [skipSpace]
  split
  · exact length_skipComments_le false cs
  · exact Nat.le_refl _

/-- What follows a character, without what does not count in between. -/
def skipNext (f : Flags) (cs : List Char) : List Char := skipSpace f (cs.drop 1)

/-! ### Characters and sets -/

/-- A set as it is written, with both cases of its letters if case does not count. -/
def Flags.set? (f : Flags) (s : CharSet) : Option CharSet :=
  if !f.anyCase then some s else if f.allScripts then none else some s.foldCase

/-- The characters that are not in a set. -/
def Flags.negated? (f : Flags) (s : CharSet) : Option CharSet :=
  if f.allScripts then some s.compl else none

/-- The set of a character; `isByte` says that it is written as the number of a
byte. -/
def Flags.literal? (f : Flags) (c : Char) (isByte : Bool) : Option CharSet :=
  if f.allScripts then f.set? (.single c)
  else if c.toNat < 0x80 then f.set? (.single c)
  else if isByte then none
  else some (.single c)

/-- The set of the characters in a range; it is one of ASCII unless all scripts
count. -/
def Flags.range? (f : Flags) (low high : Char) : Option CharSet :=
  if low ≤ high && (f.allScripts || high.toNat < 0x80) then
    f.set? (.ofRanges [(low.toNat, high.toNat)])
  else none

/-- The characters that a point stands for. -/
def Flags.anyChar? (f : Flags) : Option CharSet :=
  if !f.allScripts then none
  else if f.pointIsAll then some CharSet.empty.compl
  else if f.carriageReturns then some (CharSet.compl (.ofRanges [(0x0a, 0x0a), (0x0d, 0x0d)]))
  else some (CharSet.compl (.single '\n'))

/-! ### Conditions -/

/-- The condition that a caret or a dollar sign is. -/
def Flags.anchor (f : Flags) (isStart : Bool) : Assertion :=
  match f.multiLine, isStart with
  | true, true => .lineStart f.carriageReturns
  | true, false => .lineEnd f.carriageReturns
  | false, true => .textStart
  | false, false => .textEnd

/-- A condition on words as it is meant. -/
def Flags.wordCondition (f : Flags) (a : Assertion) : Assertion :=
  if f.allScripts then .scriptBoundary else a

end DesignHistory.Pattern
