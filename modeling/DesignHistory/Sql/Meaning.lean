import DesignHistory.Sql.Statements

/-!
# The meaning of SQL statements

What the rows of a statement are, given the rows of the tables and the values of
the placeholders.  Tables are bags, listed in some order: a join runs through all
pairs, a condition keeps the rows for which it is true, and only `ORDER BY`
rearranges.

## Main definitions

* `Sql.Row`, `Sql.Relation`, `Sql.Database`: named cells, lists of rows, and the
  relations behind names.
* `Sql.Scope`: the rows that the relations of a statement stand at.
* `Sql.Statement.rows`: the rows of a statement.
* `Tables.database`: the tables of a store as relations.

A comparison with null is not true, and nothing here asks whether one is false.
-/

namespace DesignHistory

namespace Sql

/-- The cells of a row by column.  Names may occur twice, as `id` does in a joined row, and then the
first one is found. -/
abbrev Row := List (String × Cell)

/-- The rows of a relation.  It is a bag in the order of some listing: a row may occur more than
once, and the order means nothing unless a statement sorts. -/
abbrev Relation := List Row

/-- The relations behind names; a name that stands for none has no rows. -/
abbrev Database := String → Relation

/-- The row that each relation of a statement stands at, in the order in which the relations are
joined.  A subselect puts the row of its own source in front, and sees the others behind it. -/
abbrev Scope := List (String × Row)

/-! ### Operands and comparisons -/

/-- The first cell of a name in a row. -/
def Row.cell? (r : Row) (name : String) : Option Cell :=
  (r.find? fun c => c.1 == name).map Prod.snd

/-- The cell of a column; without a relation, of the first one that has it. -/
def Scope.cell (scope : Scope) (c : Column) : Cell :=
  match c.relation with
  | some relation =>
    (scope.find? fun s => s.1 == relation).bind fun s => (Row.cell? s.2 c.name).join
  | none => (scope.findSome? fun s => Row.cell? s.2 c.name).join

/-- A single value bound to a placeholder. -/
def Parameter.value? : Parameter → Option Value
  | .int8 n => some (.int8 n)
  | .int2 n => some (.int2 n)
  | .text s => some (.text s)
  | .int8Array _ | .textArray _ => none

/-- The values of an array bound to a placeholder. -/
def Parameter.values : Parameter → List Value
  | .int8Array l => l.map .int8
  | .textArray l => l.map .text
  | .int8 _ | .int2 _ | .text _ => []

/-- The parameter of a placeholder. -/
def bound? (parameters : List Parameter) (number : Nat) : Option Parameter :=
  parameters[number - 1]?

/-- The values of an array placeholder. -/
def boundValues (parameters : List Parameter) (number : Nat) : List Value :=
  ((bound? parameters number).map Parameter.values).getD []

/-- The cell that an operand denotes. -/
def Operand.cell (parameters : List Parameter) (scope : Scope) : Operand → Cell
  | .column c => scope.cell c
  | .placeholder number => (bound? parameters number).bind Parameter.value?
  | .integer n => some (.int8 n)

/-- Whether one value is at most another one of its type. -/
def Value.atMost : Value → Value → Bool
  | .int8 m, .int8 n => decide (m ≤ n)
  | .int4 m, .int4 n => decide (m ≤ n)
  | .int2 m, .int2 n => decide (m ≤ n)
  | _, _ => false

/-- Whether a comparison is true.  With a null on either side it is not, whatever the other side
is. -/
def Comparison.holds (parameters : List Parameter) (scope : Scope) : Comparison → Bool
  | .equal left right =>
    match left.cell parameters scope, right.cell parameters scope with
    | some x, some y => x == y
    | _, _ => false
  | .atMost left right =>
    match left.cell parameters scope, right.cell parameters scope with
    | some x, some y => x.atMost y
    | _, _ => false

/-- Whether all comparisons are true. -/
def allHold (parameters : List Parameter) (scope : Scope) (comparisons : List Comparison) : Bool :=
  comparisons.all (Comparison.holds parameters scope)

/-- Whether a condition is true.  A subselect is asked about the row at hand, and sees the tables of
the statement as well as its own. -/
def Condition.holds (db : Database) (parameters : List Parameter) (scope : Scope) :
    Condition → Bool
  | .compare c => c.holds parameters scope
  | .someRow source comparisons =>
    (db source.table).any fun row => allHold parameters ((source.label, row) :: scope) comparisons
  | .noRow source comparisons =>
    !(db source.table).any fun row => allHold parameters ((source.label, row) :: scope) comparisons
  | .emptyOrAmong operand number _ =>
    let values := boundValues parameters number
    values.isEmpty
      || (match operand.cell parameters scope with
          | some x => values.contains x
          | none => false)

/-! ### Relations -/

/-- The rows whose columns run through arrays side by side; a shorter array is
filled up with nulls. -/
def zipColumns (columns : List (List Value)) : List (List Cell) :=
  let height := (columns.map List.length).foldl max 0
  (List.range height).map fun i => columns.map fun column => column[i]?

/-- The rows of an inline relation, without names.  Arrays run side by side, and a reference that is
bound twice gives two rows. -/
def Inline.rows (parameters : List Parameter) : Inline → List (List Cell)
  | .values rows => rows.map fun row => row.map fun n => some (.int8 n)
  | .unnest arrays => zipColumns (arrays.map fun a => boundValues parameters a.1)

/-- The relations that a statement sees, with its named relation before those of
the database. -/
def With.extend (w : With) (db : Database) (parameters : List Parameter) : Database := fun name =>
  if name = w.name then (w.rows.rows parameters).map fun row => w.columns.zip row
  else db name

/-- The scopes of a source on its own. -/
def Source.scopes (s : Source) (db : Database) : List Scope :=
  (db s.table).map fun row => [(s.label, row)]

/-- The scopes after one more join. -/
def Join.extend (j : Join) (db : Database) (parameters : List Parameter) (scopes : List Scope) :
    List Scope :=
  scopes.flatMap fun scope =>
    ((db j.source.table).map fun row => scope ++ [(j.source.label, row)]).filter fun scope =>
      allHold parameters scope j.on

/-- The sort key of a cell: integers in their order, everything else after them. -/
def sortKey : Cell → Int64 × Int64
  | some (.int8 n) => (0, n)
  | some (.int4 n) => (0, n.toInt64)
  | some (.int2 n) => (0, n.toInt64)
  | _ => (1, 0)

/-- Scopes sorted by one column, keeping the order of those that are equal in it. -/
def Order.sort (o : Order) (scopes : List Scope) : List Scope :=
  let key := fun scope : Scope => sortKey (scope.cell o.column)
  if o.descending then (sortOn key scopes.reverse).reverse else sortOn key scopes

/-- Scopes sorted by several columns, the first one counting most. -/
def sortBy (order : List Order) (scopes : List Scope) : List Scope :=
  order.foldr Order.sort scopes

/-- The row that a projection makes of one scope. -/
def Column.named (scope : Scope) (c : Column) : String × Cell := (c.name, scope.cell c)

/-- The rows that a projection makes of all scopes.  A count makes one row even of no scope at
all. -/
def Projection.rows (scopes : List Scope) : Projection → Relation
  | .columns l => scopes.map fun scope => l.map (Column.named scope)
  | .count c label =>
    [[(label, some (.int8 (Int64.ofNat (scopes.filter fun s => (s.cell c).isSome).length)))]]

/-- The joined scopes that satisfy the conditions of a statement.  The joins are made in the order
in which they stand. -/
def Statement.scopes (s : Statement) (db : Database) (parameters : List Parameter) : List Scope :=
  let db := match s.common with
    | some w => w.extend db parameters
    | none => db
  let joined := s.joins.foldl (fun scopes j => j.extend db parameters scopes) (s.source.scopes db)
  joined.filter fun scope => s.conditions.all (Condition.holds db parameters scope)

/-- **The rows of a statement.** Joins first, then the conditions, then the order, then the
projection, so that a sort column need not be projected.  Only `ORDER BY` rearranges. -/
def Statement.rows (s : Statement) (db : Database) (parameters : List Parameter) : Relation :=
  s.projection.rows (sortBy s.order (s.scopes db parameters))

/-- The rows of a query. -/
def Query.rows (q : Query) (db : Database) : Relation := q.statement.rows db q.parameters

end Sql

/-! ### The tables of a store -/

open Sql

/-- An issue as a row. -/
def Issue.row (i : Issue) : Row :=
  [("id", some (.int8 i.id)), ("project_id", some (.int8 i.projectId)),
    ("iid", some (.int8 i.iid)), ("title", some (.text i.title))]

/-- A design as a row. -/
def Design.row (d : Design) : Row :=
  [("id", some (.int8 d.id)), ("project_id", some (.int8 d.projectId)),
    ("issue_id", some (.int8 d.issueId)), ("filename", some (.text d.filename))]

/-- A version as a row. -/
def Version.row (v : Version) : Row :=
  [("id", some (.int8 v.id)), ("issue_id", some (.int8 v.issueId)), ("sha", some (.text v.sha)),
    ("author_id", v.authorId.map .int8), ("created_at", some (.timestamptz v.createdAt))]

/-- An action as a row. -/
def Action.row (a : Action) : Row :=
  [("design_id", some (.int8 a.designId)), ("version_id", some (.int8 a.versionId)),
    ("event", some (.int2 a.event.code))]

/-- The tables of a store as relations, one row for each record, with the columns of the schema.
Any listing of the same rows in another order is the same database. -/
def Tables.database (t : Tables) : Database := fun name =>
  if name = issuesTable then t.issues.values.map Issue.row
  else if name = designsTable then t.designs.values.map Design.row
  else if name = versionsTable then t.versions.values.map Version.row
  else if name = actionsTable then t.actions.map Action.row
  else []

end DesignHistory
