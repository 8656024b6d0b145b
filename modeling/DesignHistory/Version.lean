import DesignHistory.Design
import DesignHistory.Instant

/-!
# Versions

A version is one commit to the designs of an issue.  Version ids grow with time,
so the id says which of two versions is the earlier one, across all issues.

## Main definitions

* `Version`: the record; its `sha` is computed in `DesignHistory.Version.Content`.
* `Version.isAtOrBefore`: the order in time.
-/

namespace DesignHistory

/-- A commit to the designs of an issue.  The `sha` covers what was committed and the version
before; the author and the time are outside of it. -/
structure Version where
  id : VersionId
  issueId : IssueId
  sha : String
  authorId : Option UserId
  createdAt : Instant
deriving DecidableEq, Repr

/-- Whether a version is the other one or an earlier one. -/
def Version.isAtOrBefore (v other : Version) : Bool := decide (v.id ≤ other.id)

end DesignHistory
