import DesignHistory.Design
import DesignHistory.Text.Decimal
import DesignHistory.Text.Quoted

/-!
# Command line arguments

The arguments are identities, with an option that restricts the results to an
issue wherever it stands.

## Main definitions

* `Arguments`: the issue, if one is named, and the identities.
* `Arguments.parse`: reads arguments from the left; of several issues the last one
  counts.
* `ArgumentError`: why arguments are refused, with the messages.
-/

namespace DesignHistory

/-- What the command line asks for.  The identities stay texts here: whether one is a pin is found
out when it is looked up, and a malformed one is a line of output and no error of the command
line. -/
structure Arguments where
  issueId : Option IssueId
  identities : List String
deriving DecidableEq, Repr

/-- Why arguments are refused.  The first offence from the left counts, and that there are no
identities only if there is no offence. -/
inductive ArgumentError where
  /-- The issue option is the last argument. -/
  | missingValue
  | invalidIssueId (value : String) (error : Decimal.ReadError)
  | helpWanted
  | noIdentities
deriving DecidableEq, Repr

/-- How the program is called. -/
def usage : String := "usage: dav [--issue <id>] <design_id.version_id>..."

/-- The messages of an error, from the outermost to its cause. -/
def ArgumentError.chain : ArgumentError → List String
  | .missingValue | .helpWanted | .noIdentities => [usage]
  | .invalidIssueId value error => ["invalid issue id " ++ Text.quote value, error.message]

/-- The outermost message of an error. -/
def ArgumentError.message (e : ArgumentError) : String := e.chain.headD ""

namespace Arguments

/-- Reads arguments after those read so far.  Words are looked at from the left, and an issue option
takes the word behind it whatever that is. -/
def read (sofar : Arguments) : List String → Except ArgumentError Arguments
  | [] => .ok sofar
  | "--issue" :: value :: rest =>
    match Decimal.readInt64 value with
    | .ok issueId => read { sofar with issueId := some issueId } rest
    | .error e => .error (.invalidIssueId value e)
  | ["--issue"] => .error .missingValue
  | arg :: rest =>
    if arg = "-h" ∨ arg = "--help" then .error .helpWanted
    else read { sofar with identities := sofar.identities ++ [arg] } rest

/-- **What arguments ask for**; at least one identity is needed.  The issue option may be given
several times and in any place, and the last one counts. -/
def parse (args : List String) : Except ArgumentError Arguments :=
  match read ⟨none, []⟩ args with
  | .error e => .error e
  | .ok parsed => if parsed.identities.isEmpty then .error .noIdentities else .ok parsed

end Arguments

end DesignHistory
