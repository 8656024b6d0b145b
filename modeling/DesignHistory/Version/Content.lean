import DesignHistory.Digest.Sha256
import DesignHistory.SortedList
import DesignHistory.Text.Decimal
import DesignHistory.Version

/-!
# The content of a version and its hash

The `sha` of a version is the hash of a text that says what the version is: its
issue, the `sha` of the version before it, and the events it records, in the
order of the designs.  Through the parent every version is chained to the whole
history of its issue.

## Main definitions

* `Version.recorded`: the events as sorted pairs of design and code.
* `Version.content`: the hashed text.
* `Version.computeSha`: its hash.

The text is kept apart from the hash, since it alone decides which versions the
hash can tell apart.
-/

namespace DesignHistory.Version

/-- What the actions record, each a design and the code of an event, sorted.  Sorting makes the text
independent of the order in which the actions were handed in; repetitions are kept. -/
def recorded (actions : List Action) : List (DesignId × Int64) :=
  sortOn (fun entry => entry) (actions.map fun a => (a.designId, a.event.code.toInt64))

/-- The line that names the issue. -/
def issueLine (issueId : IssueId) : String :=
  "issue:" ++ Decimal.ofInt64 issueId ++ "\n"

/-- The line that names the parent, none for the first version of an issue. -/
def parentLine : Option String → String
  | some sha => "parent:" ++ sha ++ "\n"
  | none => ""

/-- The line of one recorded event. -/
def actionLine (entry : DesignId × Int64) : String :=
  "action:" ++ Decimal.ofInt64 entry.1 ++ ":" ++ Decimal.ofInt64 entry.2 ++ "\n"

/-- **The text that the `sha` of a version is the hash of.** The issue and the parent are lines of
their own before the actions, so that each part can be read back, as long as the parent is a single
line. -/
def content (issueId : IssueId) (parent : Option String) (actions : List Action) : String :=
  issueLine issueId ++ parentLine parent ++ String.join ((recorded actions).map actionLine)

/-- The `sha` of a version of an issue with the given parent and actions.  It depends on the content
only: who committed the version and when is not hashed. -/
def computeSha (issueId : IssueId) (parent : Option String) (actions : List Action) : String :=
  Sha256.hexDigest (content issueId parent actions)

end DesignHistory.Version
