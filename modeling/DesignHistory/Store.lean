import DesignHistory.Failure
import DesignHistory.Lifecycle
import DesignHistory.Selection
import DesignHistory.SortedMap
import DesignHistory.Version.Content

/-!
# The store

Issues, designs, versions and actions in memory.  Everything is only ever added:
an id, once given out, names the same record for good.  Reading happens through
queries that are counted, and a failure can be armed for the next of them.

## Main definitions

* `Tables`: the records; its functions are the questions one can ask.
* `Store`: the tables, the last id given out, the number of queries, and the
  armed failure.
* `Store.insertIssue`, `Store.insertDesign`, `Store.commitVersion`: the writers.
* `Store.query`: one question, counted, or the armed failure.

Issues, designs and versions draw their ids from one counter, which starts at 1
and wraps around after the largest signed 64-bit number.
-/

namespace DesignHistory

/-- Points at a design by its issue and its file.  Nothing keeps two designs of an issue from having
one filename, so that a reference may point at several of them. -/
structure DesignReference where
  issueId : IssueId
  filename : String
deriving DecidableEq, Repr

/-- References are ordered by issue, and those into one issue by filename. -/
instance : KeyOrder DesignReference :=
  KeyOrder.pullback (fun r => (r.issueId, r.filename)) fun {p q} h => by
    cases p; cases q; simp_all

/-- Whether a reference points at a design. -/
def DesignReference.pointsAt (r : DesignReference) (d : Design) : Bool :=
  d.issueId == r.issueId && d.filename == r.filename

/-- **The records of a store.** Each kind is a map by id, but for the actions, which have no id and
are in the order in which they were recorded. -/
structure Tables where
  issues : SortedMap IssueId Issue := .empty
  designs : SortedMap DesignId Design := .empty
  versions : SortedMap VersionId Version := .empty
  actions : List Action := []

namespace Tables

/-! ### Questions about issues and designs -/

/-- The issue with an id. -/
def findIssue (t : Tables) (id : IssueId) : Option Issue := t.issues.get? id

/-- The design with an id, if it belongs to the issue. -/
def findDesign (t : Tables) (issueId : IssueId) (id : DesignId) : Option Design :=
  (t.designs.get? id).filter fun d => d.issueId == issueId

/-- The first design of an issue with a filename. -/
def findDesignByFilename (t : Tables) (issueId : IssueId) (filename : String) : Option Design :=
  t.designs.values.find? fun d => d.issueId == issueId && d.filename == filename

/-- The designs of an issue, by id. -/
def designsOfIssue (t : Tables) (issueId : IssueId) : List Design :=
  t.designs.values.filter fun d => d.issueId == issueId

/-- The designs that some reference points at, each once, by id. -/
def findDesignsByReference (t : Tables) (references : List DesignReference) : List Design :=
  t.designs.values.filter fun d => references.any fun r => r.pointsAt d

/-! ### Questions about versions -/

/-- The version with an id. -/
def findVersion (t : Tables) (id : VersionId) : Option Version := t.versions.get? id

/-- The versions of an issue, newest first. -/
def versionsOfIssue (t : Tables) (issueId : IssueId) : List Version :=
  t.versions.values.reverse.filter fun v => v.issueId == issueId

/-- The first version of an issue with a `sha`. -/
def findVersionBySha (t : Tables) (issueId : IssueId) (sha : String) : Option Version :=
  t.versions.values.find? fun v => v.issueId == issueId && v.sha == sha

/-- The actions recorded by a version, by design. -/
def actionsOfVersion (t : Tables) (versionId : VersionId) : List Action :=
  sortOn (fun a => a.designId) (t.actions.filter fun a => a.versionId == versionId)

/-- The `sha` that the next version of an issue takes as its parent. -/
def headSha (t : Tables) (issueId : IssueId) : Option String :=
  (t.versionsOfIssue issueId).head?.map fun v => v.sha

/-! ### Questions that join the tables -/

/-- The selected pairs, by design and then by version. -/
def select (t : Tables) (s : Selection) : List PinnedDesign :=
  s.select t.designs.values t.versions.values

/-- The designs in sight as of a version that pass a filter. -/
def visibleDesigns (t : Tables) (v : Version) (filter : DesignFilter) : List Design :=
  snapshot v t.designs.values t.actions filter

/-- The designs of its issue that a version acted on, by id. -/
def changedDesigns (t : Tables) (v : Version) : List Design :=
  (t.designsOfIssue v.issueId).filter fun d =>
    t.actions.any fun a => a.versionId == v.id && a.designId == d.id

end Tables

/-- **Records in memory**, with the count of queries and the armed failure.  Records of all kinds
take their ids from the one counter `lastId`, so that a later record has a greater id, of whatever
kind the two are. -/
structure Store where
  tables : Tables := {}
  lastId : Int64 := 0
  queries : Nat := 0
  armed : Option String := none

namespace Store

/-- The store without records. -/
def empty : Store := {}

/-! ### Writing -/

/-- The id that the next record gets. -/
def nextId (s : Store) : Int64 := s.lastId + 1

/-- The issues of a project. -/
def issuesOfProject (s : Store) (projectId : ProjectId) : List Issue :=
  s.tables.issues.values.filter fun i => i.projectId == projectId

/-- Adds an issue.  Its number within the project is one more than the number of issues that the
project already has. -/
def insertIssue (s : Store) (projectId : ProjectId) (title : String) : Issue × Store :=
  let issue : Issue :=
    { id := s.nextId
      projectId
      iid := Int64.ofNat (s.issuesOfProject projectId).length + 1
      title }
  (issue,
    { s with
      lastId := s.nextId
      tables := { s.tables with issues := s.tables.issues.insert issue.id issue } })

/-- Adds a design to an issue; it is out of sight until a version acts on it.  A filename that the
issue already has is accepted. -/
def insertDesign (s : Store) (issue : Issue) (filename : String) : Design × Store :=
  let design : Design :=
    { id := s.nextId, projectId := issue.projectId, issueId := issue.id, filename }
  (design,
    { s with
      lastId := s.nextId
      tables := { s.tables with designs := s.tables.designs.insert design.id design } })

/-- **Adds a version of an issue that records the given events.** Its `sha` is the hash of the
issue, of the `sha` of the version before it and of the events.  These are recorded as they are
given: a design that does not exist or is of another issue is not refused. -/
def commitVersion (s : Store) (issue : Issue) (events : List (DesignId × Event))
    (createdAt : Instant) : Version × Store :=
  let actions := events.map fun e => (⟨e.1, s.nextId, e.2⟩ : Action)
  let version : Version :=
    { id := s.nextId
      issueId := issue.id
      sha := Version.computeSha issue.id (s.tables.headSha issue.id) actions
      authorId := none
      createdAt }
  (version,
    { s with
      lastId := s.nextId
      tables :=
        { s.tables with
          versions := s.tables.versions.insert version.id version
          actions := s.tables.actions ++ actions } })

/-- Arms a failure for the next query. -/
def failNext (s : Store) (message : String) : Store := { s with armed := some message }

/-! ### Reading -/

/-- Asks the tables one question.  The query is counted; if a failure is armed it
is the answer, and it is not armed any more. -/
def query {α : Type} (s : Store) (read : Tables → α) : Except StoreError α × Store :=
  match s.armed with
  | some message => (.error (.injected message), { s with queries := s.queries + 1, armed := none })
  | none => (.ok (read s.tables), { s with queries := s.queries + 1 })

@[simp]
theorem tables_query {α : Type} (s : Store) (read : Tables → α) :
    (s.query read).2.tables = s.tables := by
  unfold query
  split <;> rfl

@[simp]
theorem lastId_query {α : Type} (s : Store) (read : Tables → α) :
    (s.query read).2.lastId = s.lastId := by
  unfold query
  split <;> rfl

@[simp]
theorem queries_query {α : Type} (s : Store) (read : Tables → α) :
    (s.query read).2.queries = s.queries + 1 := by
  unfold query
  split <;> rfl

end Store

end DesignHistory
