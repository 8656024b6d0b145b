import DesignHistory.Settings
import DesignHistory.Text.Alphanumeric
import DesignHistory.Text.Blank

/-!
# Files of environment variables

A file may supply environment variables that are not set, one assignment to a
line.  A value may be quoted, may refer to variables set before it, and may be
followed by a comment.

## Main definitions

* `VariableFile.lines`: the lines of a file, where a quotation runs over line ends.
* `VariableFile.readLine`: the assignment of a line, if it has one.
* `VariableFile.load`: the environment with the assignments of a file.

Within single quotes everything stands for itself; within double quotes a
backslash escapes and `$` refers to a variable, as outside quotes.  A line that
cannot be read ends the file.
-/

namespace DesignHistory.VariableFile

open Text (isBlank trimBlanks)

/-! ### Lines -/

/-- Where the end of a line may fall.  Only within a quotation, weak or strong, does the end of a
line belong to the assignment, so that a value may have several lines. -/
inductive Mode where
  | complete
  | blank
  | escape
  | weak
  | weakEscape
  | strong
  | strongEscape
  | comment
deriving DecidableEq, Repr

/-- The mode after one more character. -/
def Mode.next : Mode → Char → Mode
  | .comment, _ => .comment
  | .escape, _ => .complete
  | .weakEscape, _ => .weak
  | .strongEscape, _ => .strong
  | .weak, c => if c = '\\' then .weakEscape else if c = '"' then .complete else .weak
  | .strong, c => if c = '\\' then .strongEscape else if c = '\'' then .complete else .strong
  | mode, c =>
    if mode = .blank ∧ c = '#' then .comment
    else if c = '\\' then .escape
    else if c = '"' then .weak
    else if c = '\'' then .strong
    else if mode = .complete ∧ isBlank c ∧ c ≠ '\n' ∧ c ≠ '\r' then .blank
    else .complete

/-- A text without the end of its line. -/
def dropLineEnd (reversed : List Char) : List Char :=
  match reversed with
  | '\n' :: '\r' :: rest | '\n' :: rest => rest.reverse
  | rest => rest.reverse

/-- The lines of a text, the one being read in reverse and with the mode it is in;
the last one is `none` if the text ends within it. -/
def splitLines (mode : Mode) (line : List Char) : List Char → List (Option (List Char))
  | [] =>
    if line.isEmpty then []
    else if mode = .complete ∨ mode = .comment then [some (dropLineEnd line)]
    else [none]
  | c :: cs =>
    let mode' := if c = '#' ∧ line.all isBlank then .comment else mode.next c
    let line' := if mode' = .comment then line else c :: line
    if c = '\n' then
      if mode' = .complete ∨ mode' = .comment then
        some (dropLineEnd line') :: splitLines .complete [] cs
      else splitLines mode' line' cs
    else splitLines mode' line' cs

/-- The lines of a file. -/
def lines (content : String) : List (Option (List Char)) :=
  match content.toList with
  | '\ufeff' :: cs => splitLines .complete [] cs
  | cs => splitLines .complete [] cs

/-! ### Values -/

/-- Variables that the file has assigned so far, the last one first. -/
abbrev Assigned := List (String × String)

/-- What a reference to a variable stands for. -/
def substitute (env : Environment) (assigned : Assigned) (name : List Char) : List Char :=
  let name := String.ofList name
  match env.get? name with
  | some value => value.toList
  | none =>
    match assigned.find? fun a => a.1 == name with
    | some a => a.2.toList
    | none => []

/-- What a character of a value is part of. -/
inductive Part where
  | plain
  | escaped
  /-- After the value only a comment may follow. -/
  | ended
  /-- The name of a variable, its last character first, and whether braces enclose it. -/
  | variable (braced : Bool) (name : List Char)
deriving DecidableEq, Repr

/-- How far a value has been read: the quotation it is in, and its characters, the last one first.
The mode of the line cannot be used for this, because it does not know about variables. -/
structure Reading where
  part : Part := .plain
  weak : Bool := false
  strong : Bool := false
  output : List Char := []
deriving DecidableEq, Repr

/-- A character added to the value. -/
def Reading.push (r : Reading) (c : Char) : Reading :=
  { r with part := .plain, output := c :: r.output }

/-- The value of a variable added to the value, `look` giving the values of variables. -/
def Reading.pushVariable (r : Reading) (look : List Char → List Char) (name : List Char) :
    Reading :=
  { r with part := .plain, output := (look name.reverse).reverseAux r.output }

/-- A character that belongs to the value itself. -/
def Reading.plainChar (r : Reading) (c : Char) : Reading :=
  if r.strong then
    if c = '\'' then { r with strong := false } else r.push c
  else if c = '$' then { r with part := .variable false [] }
  else if r.weak then
    if c = '"' then { r with weak := false }
    else if c = '\\' then { r with part := .escaped }
    else r.push c
  else if c = '\'' then { r with strong := true }
  else if c = '"' then { r with weak := true }
  else if c = '\\' then { r with part := .escaped }
  else if c = ' ' ∨ c = '\t' then { r with part := .ended }
  else r.push c

/-- One character of a reference. -/
def Reading.nameChar (r : Reading) (look : List Char → List Char) (braced : Bool)
    (name : List Char) (c : Char) : Reading :=
  if Text.isAlphanumeric c then { r with part := .variable braced (c :: name) }
  else if braced then
    if c = '\x7d' then r.pushVariable look name
    else { r with part := .variable true (c :: name) }
  else if c = '\x7b' ∧ name.isEmpty then { r with part := .variable true [] }
  else if c = '$' then { r.pushVariable look name with part := .variable false [] }
  else (r.pushVariable look name).push c

/-- The value that characters denote, none if they cannot be read.  A quotation that does not end
makes the line unreadable, and so does anything but a comment after a blank. -/
def readValue (look : List Char → List Char) (r : Reading) : List Char → Option (List Char)
  | [] =>
    match r.part with
    | .variable true _ => none
    | .variable false name =>
      if r.weak then none else some (r.pushVariable look name).output.reverse
    | _ => if r.strong ∨ r.weak then none else some r.output.reverse
  | c :: cs =>
    match r.part with
    | .ended =>
      if c = ' ' ∨ c = '\t' then readValue look r cs
      else if c = '#' then if r.strong ∨ r.weak then none else some r.output.reverse
      else none
    | .escaped =>
      if ['\\', '\'', '"', '$', ' '].contains c then readValue look (r.push c) cs
      else if c = 'n' then readValue look (r.push '\n') cs
      else none
    | .variable braced name => readValue look (r.nameChar look braced name c) cs
    | .plain => readValue look (r.plainChar c) cs

/-! ### Assignments -/

/-- The name in front of a text, and the rest. -/
def readName? : List Char → Option (List Char × List Char)
  | c :: cs =>
    if c.isAlpha || c == '_' then
      let isPart := fun c : Char => c.isAlphanum || c == '_' || c == '.'
      some (c :: cs.takeWhile isPart, cs.dropWhile isPart)
    else none
  | [] => none

/-- The text after an equals sign with blanks around it. -/
def afterEquals? (cs : List Char) : Option (List Char) :=
  match cs.dropWhile isBlank with
  | '=' :: cs => some (cs.dropWhile isBlank)
  | _ => none

/-- The name that a line assigns to and the text of its value; the word `export`
may stand in front. -/
def readTarget? (cs : List Char) : Option (List Char × List Char) := do
  let (name, rest) ← readName? cs
  match afterEquals? rest with
  | some value => some (name, value)
  | none =>
    if name = "export".toList then
      let (name, rest) ← readName? (rest.dropWhile isBlank)
      some (name, ← afterEquals? rest)
    else none

/-- The outcome of a line: unreadable, without an assignment, or an assignment.  An empty line and a
comment are readable lines without an assignment. -/
def readLine (env : Environment) (assigned : Assigned) (line : List Char) :
    Option (Option (String × String)) := do
  let line := trimBlanks line
  if line.isEmpty || line.head? == some '#' then some none
  else
    let (name, value) ← readTarget? line
    if value.isEmpty || value.head? == some '#' then some (some (String.ofList name, ""))
    else
      let value ← readValue (substitute env assigned) {} value
      some (some (String.ofList name, String.ofList value))

/-- Whether a text can be the value of a variable; the end of an entry is marked by a
null character. -/
def isStorable (value : String) : Bool := !value.toList.contains '\x00'

/-- Works lines into the environment; a variable that is set keeps its value.  There
is no environment left if a variable cannot be set. -/
def loadLines (env : Environment) (assigned : Assigned) :
    List (Option (List Char)) → Option Environment
  | [] | none :: _ => some env
  | some line :: rest =>
    match readLine env assigned line with
    | none => some env
    | some none => loadLines env assigned rest
    | some (some (name, value)) =>
      let assigned := (name, value) :: assigned
      if (env.get? name).isSome then loadLines env assigned rest
      else if isStorable value then loadLines (env ++ [(name, value)]) assigned rest
      else none

/-- The environment with the assignments of a file.  A variable that is set already keeps its value,
also one that an earlier line has set. -/
def load (env : Environment) (content : String) : Option Environment :=
  loadLines env [] (lines content)

end DesignHistory.VariableFile
