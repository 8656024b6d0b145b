import DesignHistory.Environment
import DesignHistory.Pattern.Parser
import DesignHistory.Pattern.Spans
import DesignHistory.Text.Blank

/-!
# Log filters

What the program logs about itself can be filtered with the variable `RUST_LOG`, a
list of directives between commas.  A directive sets the highest level to be
shown, for everything or for the targets whose names start with a text; a pattern
after a slash restricts the messages to those in which it occurs.  A pattern that
cannot be read restricts nothing.

## Main definitions

* `LogLevel`: how much detail a message has, or how much is shown.
* `LogFilter.ofText`: the filter that a list of directives describes.
* `LogFilter.shows`: whether a message is shown.

The most specific directive decides; of two that are equally specific it is the
later one.
-/

namespace DesignHistory

/-- A level of detail; at the lowest one nothing is shown.  Levels are compared by rank, and every
level shows what the lower ones show. -/
inductive LogLevel where
  | off
  | error
  | warn
  | info
  | debug
  | trace
deriving DecidableEq, Repr

/-- The place of a level in the order of detail. -/
def LogLevel.rank : LogLevel → Nat
  | .off => 0
  | .error => 1
  | .warn => 2
  | .info => 3
  | .debug => 4
  | .trace => 5

/-- The level of a name, in whatever case it is written. -/
def LogLevel.ofName? (name : String) : Option LogLevel :=
  let name := name.toLower
  if name = "off" then some .off
  else if name = "error" then some .error
  else if name = "warn" then some .warn
  else if name = "info" then some .info
  else if name = "debug" then some .debug
  else if name = "trace" then some .trace
  else none

/-- The level up to which messages are shown, for one target or for all.  A target is matched by how
its name starts, so that it stands for everything within it, too. -/
structure LogDirective where
  target : Option String := none
  level : LogLevel
deriving DecidableEq, Repr

/-- Which messages are shown. -/
structure LogFilter where
  directives : List LogDirective
  /-- What has to occur in a message. -/
  pattern : Option Pattern := none
deriving Repr

/-! ### Directives -/

/-- Whether a directive is about a target. -/
def LogDirective.covers (d : LogDirective) (target : String) : Bool :=
  match d.target with
  | none => true
  | some name => name.toList.isPrefixOf target.toList

/-- How specific a directive is. -/
def LogDirective.weight (d : LogDirective) : Nat := (d.target.getD "").utf8ByteSize

/-- The directive that a text describes: a level, a target, or both with an equals
sign between them.  A target alone is shown in full. -/
def LogDirective.ofText? (cs : List Char) : Option LogDirective :=
  match cs.splitOn '=' with
  | [word] =>
    match LogLevel.ofName? (String.ofList word) with
    | some level => some { level }
    | none => some { target := String.ofList word, level := .trace }
  | [target, level] =>
    let target := some (String.ofList target)
    let level := Text.trimBlanks level
    if level.isEmpty then some { target, level := .trace }
    else (LogLevel.ofName? (String.ofList level)).map fun level => { target, level }
  | _ => none

/-- Directives with one more, which replaces the one for the same target. -/
def addDirective (d : LogDirective) : List LogDirective → List LogDirective
  | [] => [d]
  | e :: rest => if e.target = d.target then d :: rest else e :: addDirective d rest

namespace LogFilter

/-- Messages are shown up to `info`. -/
def standard : List LogDirective := [{ level := .info }]

/-- The directives in a text between commas; those that cannot be read are left out. -/
def directivesOf (cs : List Char) : List LogDirective :=
  ((cs.splitOn ',').map Text.trimBlanks).filter (!·.isEmpty) |>.filterMap LogDirective.ofText?

/-- The filter that a text describes; the directives come on top of the standard ones.  A text that
has more than one part behind a slash is ignored as a whole. -/
def ofText (s : String) : LogFilter :=
  let combine := fun cs : List Char =>
    (directivesOf cs).foldl (fun directives d => addDirective d directives) standard
  match s.toList.splitOn '/' with
  | [directives] => { directives := combine directives }
  | [directives, pattern] =>
    { directives := combine directives, pattern := Pattern.ofText? (String.ofList pattern) }
  | _ => { directives := standard }

/-- The filter that the environment asks for. -/
def ofEnvironment (env : Environment) : LogFilter := ofText ((env.get? "RUST_LOG").getD "")

/-- The most specific of several directives about a target. -/
def deciding? (target : String) (directives : List LogDirective) : Option LogDirective :=
  (directives.filter (·.covers target)).foldl (fun best d =>
    match best with
    | some b => if b.weight ≤ d.weight then some d else some b
    | none => some d) none

/-- Whether a message of a level from a target is shown.  One directive decides, and the pattern is
asked only about the text of the message. -/
def shows (f : LogFilter) (level : LogLevel) (target message : String) : Bool :=
  (match deciding? target f.directives with
    | some d => level.rank ≤ d.level.rank
    | none => false)
    && f.pattern.all (·.occursIn message)

end LogFilter

end DesignHistory
