import DesignHistory.Lookup
import DesignHistory.Selection
import DesignHistory.Sql
import DesignHistory.Store

/-!
# The statements of this library

Every question that is put to a relational database, as a statement and the
values bound to its placeholders.

## Main definitions

* `Sql.designsTable`, `Sql.versionsTable`, `Sql.actionsTable`, `Sql.issuesTable`: the
  tables of the schema.
* `Selection.statement`: the join of designs and versions that a selection
  describes, with the requested pins as an inline relation.
* `Sql.visibleDesigns`, `Sql.changedDesigns`, `Sql.designsByReference` and the plain
  look-ups.
* `Sql.Query`: a statement with its parameters.

A joined row has the columns of the design first and those of the version after
them, each half starting with its `id`.
-/

namespace DesignHistory

namespace Sql

/-- A statement with the values of its placeholders.  What is compared between two questions is the
whole of it: the same text with other parameters is another query. -/
structure Query where
  statement : Statement
  parameters : List Parameter := []
deriving DecidableEq, Repr

/-! ### The schema -/

/-- The table of issues. -/
def issuesTable : String := "issues"

/-- The table of designs. -/
def designsTable : String := "design_management_designs"

/-- The table of versions. -/
def versionsTable : String := "design_management_versions"

/-- The table of actions. -/
def actionsTable : String := "design_management_designs_versions"

/-- The relation of requested pins. -/
def pairsRelation : String := "pairs"

/-- The relation of references. -/
def refsRelation : String := "refs"

/-- The columns of an issue. -/
def issueColumns : List String := ["id", "project_id", "iid", "title"]

/-- The columns of a design. -/
def designColumns : List String := ["id", "project_id", "issue_id", "filename"]

/-- The columns of a version. -/
def versionColumns : List String := ["id", "issue_id", "sha", "author_id", "created_at"]

/-- The columns of an action. -/
def actionColumns : List String := ["design_id", "version_id", "event"]

/-! ### Building blocks -/

/-- A column of a relation. -/
def of (relation name : String) : Column := ⟨some relation, name⟩

/-- A column as an operand. -/
def col (relation name : String) : Operand := .column (of relation name)

/-- Two columns are equal. -/
def sameColumn (left right : Column) : Comparison := .equal (.column left) (.column right)

/-- A column equals a placeholder. -/
def isParameter (c : Column) (number : Nat) : Condition :=
  .compare (.equal (.column c) (.placeholder number))

/-- A selection of designs, known as `d`. -/
def selectDesigns (conditions : List Condition) (order : List Order) : Statement :=
  { projection := .columns (designColumns.map (of "d"))
    source := ⟨designsTable, some "d"⟩
    conditions
    order }

/-- A selection of versions, known as `v`. -/
def selectVersions (conditions : List Condition) (order : List Order) : Statement :=
  { projection := .columns (versionColumns.map (of "v"))
    source := ⟨versionsTable, some "v"⟩
    conditions
    order }

/-! ### Look-ups -/

/-- The issue with an id. -/
def findIssue (id : IssueId) : Query where
  statement :=
    { projection := .columns (issueColumns.map fun name => { name })
      source := ⟨issuesTable, none⟩
      conditions := [isParameter { name := "id" } 1] }
  parameters := [.int8 id]

/-- The design of an issue with an id. -/
def findDesign (issueId : IssueId) (id : DesignId) : Query where
  statement := selectDesigns [isParameter (of "d" "issue_id") 1, isParameter (of "d" "id") 2] []
  parameters := [.int8 issueId, .int8 id]

/-- The design of an issue with a filename. -/
def findDesignByFilename (issueId : IssueId) (filename : String) : Query where
  statement :=
    selectDesigns [isParameter (of "d" "issue_id") 1, isParameter (of "d" "filename") 2] []
  parameters := [.int8 issueId, .text filename]

/-- The designs of an issue, by id. -/
def designsOfIssue (issueId : IssueId) : Query where
  statement := selectDesigns [isParameter (of "d" "issue_id") 1] [⟨of "d" "id", false⟩]
  parameters := [.int8 issueId]

/-- The version with an id. -/
def findVersion (id : VersionId) : Query where
  statement := selectVersions [isParameter (of "v" "id") 1] []
  parameters := [.int8 id]

/-- The versions of an issue, newest first. -/
def versionsOfIssue (issueId : IssueId) : Query where
  statement := selectVersions [isParameter (of "v" "issue_id") 1] [⟨of "v" "id", true⟩]
  parameters := [.int8 issueId]

/-- The version of an issue with a `sha`. -/
def versionBySha (issueId : IssueId) (sha : String) : Query where
  statement := selectVersions [isParameter (of "v" "issue_id") 1, isParameter (of "v" "sha") 2] []
  parameters := [.int8 issueId, .text sha]

/-- The actions recorded by a version, by design. -/
def actionsOfVersion (versionId : VersionId) : Query where
  statement :=
    { projection := .columns (actionColumns.map fun name => { name })
      source := ⟨actionsTable, none⟩
      conditions := [isParameter { name := "version_id" } 1]
      order := [⟨{ name := "design_id" }, false⟩] }
  parameters := [.int8 versionId]

/-! ### Designs by reference -/

/-- The designs that references point at; the references are bound as an array of issues and an
array of filenames.  The arrays are bound as they come, so that a reference that stands twice is
joined twice, and its design is a row twice. -/
def designsByReference (references : List DesignReference) : Query where
  statement :=
    { selectDesigns [] [⟨of "d" "id", false⟩] with
      common := some ⟨refsRelation, ["issue_id", "filename"], .unnest [(1, .bigint), (2, .text)]⟩
      joins := [
        { source := ⟨refsRelation, none⟩
          on := [
            sameColumn (of refsRelation "issue_id") (of "d" "issue_id"),
            sameColumn (of refsRelation "filename") (of "d" "filename")] }] }
  parameters :=
    [.int8Array (references.map fun r => r.issueId),
      .textArray (references.map fun r => r.filename)]

/-! ### What a version shows and changes -/

/-- An action on the design, recorded at or before the version in the second
placeholder. -/
def actedOnBefore : List Comparison := [
  sameColumn (of "a" "design_id") (of "d" "id"),
  .atMost (col "a" "version_id") (.placeholder 2)]

/-- The designs of the version's issue with some action up to the version and without a deletion
among them, narrowed by a filter, by id.  An empty array of the filter stands for no restriction, so
that the text is the same with and without a filter. -/
def visibleDesigns (v : Version) (filter : DesignFilter) : Query where
  statement :=
    selectDesigns [
      isParameter (of "d" "issue_id") 1,
      .someRow ⟨actionsTable, some "a"⟩ actedOnBefore,
      .noRow ⟨actionsTable, some "a"⟩
        (actedOnBefore ++ [.equal (col "a" "event") (.placeholder 3)]),
      .emptyOrAmong (col "d" "id") 4 .bigint,
      .emptyOrAmong (col "d" "filename") 5 .text] [⟨of "d" "id", false⟩]
  parameters :=
    [.int8 v.issueId, .int8 v.id, .int2 Event.deletion.code, .int8Array filter.ids,
      .textArray filter.filenames]

/-- The designs of its issue that a version acted on, by id.  An action on a design of another issue
has no row here, and two actions on one design give two rows. -/
def changedDesigns (v : Version) : Query where
  statement :=
    { selectDesigns [isParameter (of "a" "version_id") 1, isParameter (of "d" "issue_id") 2]
        [⟨of "d" "id", false⟩] with
      joins := [
        { source := ⟨actionsTable, some "a"⟩
          on := [sameColumn (of "a" "design_id") (of "d" "id")] }] }
  parameters := [.int8 v.id, .int8 v.issueId]

end Sql

/-! ### Selections -/

namespace Selection

open Sql

/-- What is asked about a selection.  The two statements differ in the projection and in the order
only. -/
inductive Aspect where
  | count
  | records
deriving DecidableEq, Repr

/-- The relation of requested pins. -/
def pairs (pins : List Pin) : With :=
  ⟨pairsRelation, ["design_id", "version_id"],
    .values (pins.map fun p => [p.designId, p.versionId])⟩

/-- Versions join the designs of their issue. -/
def joinVersions : Join where
  source := ⟨versionsTable, none⟩
  on := [sameColumn (of designsTable "issue_id") (of versionsTable "issue_id")]

/-- Requested pins join the rows they name. -/
def joinPairs : Join where
  source := ⟨pairsRelation, none⟩
  on := [
    sameColumn (of pairsRelation "design_id") (of designsTable "id"),
    sameColumn (of pairsRelation "version_id") (of versionsTable "id")]

/-- What is selected, by aspect. -/
def projection : Aspect → Projection
  | .count => .count (of designsTable "id") "count"
  | .records =>
    .columns (designColumns.map (of designsTable) ++ versionColumns.map (of versionsTable))

/-- The order of the rows; a count has none. -/
def order : Aspect → List Order
  | .count => []
  | .records => [⟨of designsTable "id", false⟩, ⟨of versionsTable "id", false⟩]

/-- **The statement whose rows are the selected pairs**, or whose one row is their number.  A
selection by an issue is a condition, a selection by pins is a join with the inline relation of
those pins, and with neither all pairs of a design and a version of its issue are selected. -/
def statement (s : Selection) (aspect : Aspect) : Statement where
  common := s.pins.map pairs
  projection := projection aspect
  source := ⟨designsTable, none⟩
  joins := joinVersions :: (if s.pins.isSome then [joinPairs] else [])
  conditions :=
    s.issueId.toList.map fun issueId =>
      .compare (.equal (col designsTable "issue_id") (.integer issueId))
  order := order aspect

end Selection

end DesignHistory
