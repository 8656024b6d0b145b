import DesignHistory.Failure
import DesignHistory.Sql

/-!
# Replies of a database

What comes back for a statement, and how records are read from it.  A field is
looked up by the name of its column, in whatever place it stands; a row of a join
has two columns called `id`, and is cut into its two halves at the second one.

## Main definitions

* `Database.Reply`: rows under named columns, a refused statement, or a refused
  connection.
* `Database.Row`: one row with the names of its columns.
* `Database.ColumnSplit`: where the halves of a joined row lie.
* `Database.readIssue`, `Database.readDesign`, `Database.readVersion`, `Database.readAction`,
  `Database.readJoined`: records from rows.

The fields of a record are read in a fixed order, and the first one that cannot
be read is the error.
-/

namespace DesignHistory.Database

open Sql

/-- What a database does with the statements that it is sent.  Nothing relates the columns to the
statement: what was asked for is checked when the rows are read. -/
inductive Reply where
  | rows (columns : List String) (rows : List (List Cell))
  /-- Every statement is refused with this message. -/
  | refused (message : String)
  /-- The connection itself is refused with this message. -/
  | rejected (message : String)
deriving DecidableEq, Repr

/-- The last position of a name.  Under a name that stands twice the later column is read. -/
def lastIndex? (name : String) : List String → Option Nat
  | [] => none
  | n :: rest =>
    match lastIndex? name rest with
    | some i => some (i + 1)
    | none => if n = name then some 0 else none

/-- One row of a reply, with the names of the columns.  Names are not assumed to be distinct, since
those of a joined row are not. -/
structure Row where
  columns : List String
  cells : List Cell
deriving DecidableEq, Repr

/-- The rows of a reply, one by one. -/
def rowsOf (columns : List String) (rows : List (List Cell)) : List Row :=
  rows.map fun cells => ⟨columns, cells⟩

/-! ### Fields -/

/-- The result of reading from a row. -/
abbrev Read (α : Type) := Except StoreError α

/-- A field that may not be null. -/
def required {α : Type} (read : Value → Option α) : Cell → Read α
  | none => .error (.field .unexpectedNull)
  | some value =>
    match read value with
    | some a => .ok a
    | none => .error (.field .wrongType)

/-- A field that may be null. -/
def optional {α : Type} (read : Value → Option α) : Cell → Read (Option α)
  | none => .ok none
  | some value =>
    match read value with
    | some a => .ok (some a)
    | none => .error (.field .wrongType)

/-- A 64-bit integer. -/
def asInt8 : Value → Option Int64
  | .int8 n => some n
  | _ => none

/-- A 16-bit integer. -/
def asInt2 : Value → Option Int16
  | .int2 n => some n
  | _ => none

/-- A text. -/
def asText : Value → Option String
  | .text s => some s
  | _ => none

/-- An instant. -/
def asInstant : Value → Option Instant
  | .timestamptz t => some t
  | _ => none

/-- The cell at a position. -/
def Row.at (r : Row) (i : Nat) : Read Cell :=
  match r.cells[i]? with
  | some cell => .ok cell
  | none => .error (.field .missing)

/-- The cell of a column, of the last one of its name. -/
def Row.named (r : Row) (name : String) : Read Cell :=
  match lastIndex? name r.columns with
  | some i => r.at i
  | none => .error (.field .missing)

/-- A field that may not be null, by the place of its cell. -/
def int8 (cell : Read Cell) : Read Int64 := cell.bind (required asInt8)

/-- A text that may not be null, by the place of its cell. -/
def text (cell : Read Cell) : Read String := cell.bind (required asText)

/-- An instant that may not be null, by the place of its cell. -/
def instant (cell : Read Cell) : Read Instant := cell.bind (required asInstant)

/-! ### Records -/

/-- An issue from its row. -/
def readIssue (r : Row) : Read Issue := do
  return {
    id := ← int8 (r.named "id")
    projectId := ← int8 (r.named "project_id")
    iid := ← int8 (r.named "iid")
    title := ← text (r.named "title") }

/-- A design from cells found by name.  How a cell is found is a parameter, since a joined row is
searched in halves. -/
def designFrom (cell : String → Read Cell) : Read Design := do
  return {
    id := ← int8 (cell "id")
    projectId := ← int8 (cell "project_id")
    issueId := ← int8 (cell "issue_id")
    filename := ← text (cell "filename") }

/-- A version from cells found by name. -/
def versionFrom (cell : String → Read Cell) : Read Version := do
  return {
    id := ← int8 (cell "id")
    issueId := ← int8 (cell "issue_id")
    sha := ← text (cell "sha")
    authorId := ← (cell "author_id").bind (optional asInt8)
    createdAt := ← instant (cell "created_at") }

/-- A design from its row. -/
def readDesign (r : Row) : Read Design := designFrom r.named

/-- A version from its row. -/
def readVersion (r : Row) : Read Version := versionFrom r.named

/-- An action from its row, the event first.  The code of the event is checked before the other
fields are read, so that an unknown code is the error even if they could not be read either. -/
def readAction (r : Row) : Read Action := do
  let code ← (r.named "event").bind (required asInt2)
  match Event.ofCode? code with
  | none => .error (.unknownEvent code)
  | some event =>
    return {
      designId := ← int8 (r.named "design_id")
      versionId := ← int8 (r.named "version_id")
      event }

/-! ### Joined rows -/

/-- The column names of the two halves of a joined row.  Their lengths say where the halves lie, so
that the same name in both halves is no ambiguity. -/
structure ColumnSplit where
  design : List String
  version : List String
deriving DecidableEq, Repr

namespace ColumnSplit

/-- The position at which the second half starts. -/
def boundary (s : ColumnSplit) : Nat := s.design.length

/-- Cuts columns at the first `id` that is not the first column.  The first column belongs to the
first half even if the second half is the only one with an `id`. -/
def locate? : List String → Option ColumnSplit
  | [] => none
  | first :: rest =>
    match rest.dropWhile (· != "id") with
    | [] => none
    | version => some ⟨first :: rest.takeWhile (· != "id"), version⟩

/-- The position of a column of the design. -/
def designIndex? (s : ColumnSplit) (name : String) : Option Nat := lastIndex? name s.design

/-- The position of a column of the version. -/
def versionIndex? (s : ColumnSplit) (name : String) : Option Nat :=
  (lastIndex? name s.version).map fun i => s.boundary + i

end ColumnSplit

/-- The cell of a column of the design. -/
def Row.designCell (r : Row) (s : ColumnSplit) (name : String) : Read Cell :=
  match s.designIndex? name with
  | some i => r.at i
  | none => .error (.missingDesignColumn name)

/-- The cell of a column of the version. -/
def Row.versionCell (r : Row) (s : ColumnSplit) (name : String) : Read Cell :=
  match s.versionIndex? name with
  | some i => r.at i
  | none => .error (.missingVersionColumn name)

/-- A design and its version from a joined row; they have to be of one issue. -/
def readPinned (s : ColumnSplit) (r : Row) : Read PinnedDesign := do
  let design ← designFrom (r.designCell s)
  let version ← versionFrom (r.versionCell s)
  (PinnedDesign.ofPair design version).mapError .mismatch

/-- **The pinned designs of joined rows**, all of them or none.  A single row whose design and
version belong to different issues fails the answer as a whole, so that no caller ever sees such a
pair. -/
def readJoined (columns : List String) (rows : List (List Cell)) : Read (List PinnedDesign) :=
  match rowsOf columns rows with
  | [] => .ok []
  | rows =>
    match ColumnSplit.locate? columns with
    | none => .error .missingIdColumns
    | some split => rows.mapM (readPinned split)

end DesignHistory.Database
