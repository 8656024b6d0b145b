import DesignHistory.Pattern.Flags
import DesignHistory.Text.Hexadecimal

/-!
# Escapes in patterns

What a backslash and the characters behind it stand for, outside of brackets and
within them.

## Main definitions

* `Pattern.Primitive`: a character, a set or a condition.
* `Pattern.readEscape?`: what stands behind a backslash, and the rest.
-/

namespace DesignHistory.Pattern

open Text (hexNumber isHexDigit)

/-- What a pattern is made of.  A byte that is written by its number is kept apart from a character,
because above ASCII it is none. -/
inductive Primitive where
  /-- A character; `isByte` says that it is written as the number of a byte. -/
  | literal (c : Char) (isByte : Bool)
  | set (s : CharSet)
  | condition (a : Assertion)
deriving DecidableEq, Repr

/-! ### Numbers of characters -/

/-- The character of a number, if it is one. -/
def charOfNumber? (n : Nat) : Option Char :=
  if n.isValidChar then some (Char.ofNat n) else none

/-- A number of hexadecimal digits, with the rest. -/
def readHexDigits? (f : Flags) : Nat → List Char → Option (List Char × List Char)
  | 0, cs => some ([], cs)
  | n + 1, c :: cs =>
    if isHexDigit c then
      (readHexDigits? f n (skipSpace f cs)).map fun (digits, rest) => (c :: digits, rest)
    else none
  | _ + 1, [] => none

/-- The hexadecimal digits up to a closing brace, with the rest behind it. -/
def readBracedDigits? (f : Flags) : List Char → Option (List Char × List Char)
  | [] => none
  | c :: cs =>
    if c = '\x7d' then some ([], skipSpace f cs)
    else if isHexDigit c then
      (readBracedDigits? f (skipSpace f cs)).map fun (digits, rest) => (c :: digits, rest)
    else none
termination_by cs => cs.length
decreasing_by exact Nat.lt_succ_of_le (length_skipSpace_le f cs)

/-- How many digits follow a letter that announces the number of a character. -/
def digitCount (letter : Char) : Nat :=
  if letter = 'x' then 2 else if letter = 'u' then 4 else 8

/-- A character by its number: a fixed count of digits, or any count in braces. -/
def readNumbered? (f : Flags) (letter : Char) (cs : List Char) :
    Option (Primitive × List Char) := do
  match skipSpace f cs with
  | '\x7b' :: rest =>
    let (digits, rest) ← readBracedDigits? f (skipSpace f rest)
    if digits.isEmpty then none
    else return (.literal (← charOfNumber? (hexNumber digits)) false, rest)
  | cs =>
    let (digits, rest) ← readHexDigits? f (digitCount letter) cs
    let c ← charOfNumber? (hexNumber digits)
    return (.literal c (letter == 'x'), rest)

/-! ### Conditions -/

/-- The letters of a name in braces, with the rest from where it ends. -/
def readLetters (f : Flags) : List Char → List Char × List Char
  | [] => ([], [])
  | c :: cs =>
    if c.isAlpha || c == '-' then
      let (letters, rest) := readLetters f (skipSpace f cs)
      (c :: letters, rest)
    else ([], c :: cs)
termination_by cs => cs.length
decreasing_by exact Nat.lt_succ_of_le (length_skipSpace_le f cs)

/-- The condition on words of a name. -/
def wordCondition? (name : String) : Option Assertion :=
  match name with
  | "start" => some .wordStart
  | "end" => some .wordEnd
  | "start-half" => some .wordStartHalf
  | "end-half" => some .wordEndHalf
  | _ => none

/-- The condition that the letter `b` stands for, with a name in braces if there is
one; braces that do not start with a letter are left for a repetition. -/
def readBoundary? (f : Flags) (cs : List Char) : Option (Assertion × List Char) :=
  match cs with
  | '\x7b' :: rest =>
    match skipSpace f rest with
    | [] => none
    | c :: inner =>
      if c.isAlpha || c == '-' then
        let (letters, rest) := readLetters f (c :: inner)
        match rest with
        | '\x7d' :: rest => (wordCondition? (String.ofList letters)).map (·, rest)
        | _ => none
      else some (.wordBoundary, cs)
  | _ => some (.wordBoundary, cs)

/-! ### All escapes -/

/-- The character that a letter stands for. -/
def controlOf? (c : Char) : Option Char :=
  if c = 'a' then some '\x07'
  else if c = 'f' then some '\x0c'
  else if c = 't' then some '\t'
  else if c = 'n' then some '\n'
  else if c = 'r' then some '\r'
  else if c = 'v' then some '\x0b'
  else none

/-- The set that a letter stands for; only sets of ASCII are known. -/
def kindOf? (f : Flags) (c : Char) : Option CharSet :=
  if f.allScripts then none
  else if c = 'd' then some .digits
  else if c = 's' then some .spaces
  else if c = 'w' then some .wordChars
  else none

/-- Whether a character stands for itself behind a backslash: a character of ASCII
that is neither a letter nor a digit, nor a condition on words. -/
def isEscapable (c : Char) : Bool :=
  c.toNat < 0x80 && !c.isAlphanum && c != '<' && c != '>'

/-- What stands behind a backslash, and the rest.  A letter or a digit without a meaning is refused
and not taken for itself, since it may get one later. -/
def readEscape? (f : Flags) : List Char → Option (Primitive × List Char)
  | [] => none
  | c :: cs =>
    if c = 'x' ∨ c = 'u' ∨ c = 'U' then readNumbered? f c cs
    else if c = 'A' then some (.condition .textStart, cs)
    else if c = 'z' then some (.condition .textEnd, cs)
    else if c = 'b' then
      (readBoundary? f cs).map fun (a, rest) => (.condition (f.wordCondition a), rest)
    else if c = 'B' then some (.condition (f.wordCondition .noWordBoundary), cs)
    else if c = '<' then some (.condition (f.wordCondition .wordStart), cs)
    else if c = '>' then some (.condition (f.wordCondition .wordEnd), cs)
    else if isEscapable c then some (.literal c false, cs)
    else
      match controlOf? c, kindOf? f c with
      | some c, _ => some (.literal c false, cs)
      | none, some s => some (.set s, cs)
      | none, none => none

end DesignHistory.Pattern
