/-!
# Issues, designs and actions

An issue of a project carries designs, each a file of some name.  What happens
to a design is recorded as actions, one event at a time, by the versions of the
issue.

## Main definitions

* `Issue`, `Design`: the two records, told apart by their ids.
* `Event`: what a version can do to a design, with the code it is stored under.
* `Action`: an event, the design it happened to and the version that recorded it.
-/

namespace DesignHistory

/-- Names a project. -/
abbrev ProjectId := Int64
/-- Names an issue. -/
abbrev IssueId := Int64
/-- Names a design. -/
abbrev DesignId := Int64
/-- Names a version. -/
abbrev VersionId := Int64
/-- Names the author of a version. -/
abbrev UserId := Int64

/-- An issue, to which designs and versions belong.  The id tells it from all other records, and
`iid` is its number within the project. -/
structure Issue where
  id : IssueId
  projectId : ProjectId
  iid : Int64
  title : String
deriving DecidableEq, Repr

/-- A design file of an issue.  The record has neither a content nor a stage: what happened to the
design is recorded by the versions of its issue, and whether it is in sight depends on the version
as of which one looks. -/
structure Design where
  id : DesignId
  projectId : ProjectId
  issueId : IssueId
  filename : String
deriving DecidableEq, Repr

/-- What a version does to a design.  A creation and a modification bring a design in sight, and a
deletion takes it out of sight for good. -/
inductive Event where
  | creation
  | modification
  | deletion
deriving DecidableEq, Repr

namespace Event

/-- The code an event is stored under. -/
def code : Event → Int16
  | .creation => 0
  | .modification => 1
  | .deletion => 2

/-- The event stored under a code. -/
def ofCode? (n : Int16) : Option Event :=
  if n = 0 then some .creation
  else if n = 1 then some .modification
  else if n = 2 then some .deletion
  else none

@[simp]
theorem ofCode?_code (e : Event) : ofCode? e.code = some e := by
  cases e <;> rfl

end Event

/-- An event that happened to a design, as recorded by a version.  Actions are the only history that
is kept, and none is ever changed or removed; every earlier state is computed from those up to a
version. -/
structure Action where
  designId : DesignId
  versionId : VersionId
  event : Event
deriving DecidableEq, Repr

end DesignHistory
