import DesignHistory.Instant

/-!
# SQL statements

The fragment of SQL in which questions are put to a relational database: joins of
tables, and of a relation given in the statement, restricted by comparisons, by
the existence of rows in another table, and by membership in an array.

## Main definitions

* `Sql.Value`, `Sql.Cell`: what a column holds, by its SQL type; a cell may be null.
* `Sql.Statement`: a `SELECT`.
* `Sql.Parameter`: a value bound to a placeholder.

A statement is printed in `DesignHistory.Sql.Printer` and has its meaning in
`DesignHistory.Sql.Meaning`.
-/

namespace DesignHistory.Sql

/-- A value of an SQL type.  The three widths of integers are kept apart, since a reply whose column
has another width than the record is an error and not a smaller number. -/
inductive Value where
  | int8 (n : Int64)
  | int4 (n : Int32)
  | int2 (n : Int16)
  | text (s : String)
  | timestamptz (t : Instant)
deriving DecidableEq, Repr

/-- What a row has in one column; `none` is null.  A comparison with null is never true, so a null
must not be confused with an empty text or with a zero. -/
abbrev Cell := Option Value

/-- A value bound to a placeholder.  Parameters are kept apart from `Value` because only a parameter
can be a whole array, and a cell never is one. -/
inductive Parameter where
  | int8 (n : Int64)
  | int2 (n : Int16)
  | text (s : String)
  | int8Array (l : List Int64)
  | textArray (l : List String)
deriving DecidableEq, Repr

/-- The element type of an array parameter. -/
inductive ArrayType where
  | bigint
  | text
deriving DecidableEq, Repr

/-- A column, with the relation it belongs to where there are several.  Both halves of a joined row
have a column called `id`, and a bare name means the one of the relation that comes first. -/
structure Column where
  relation : Option String := none
  name : String
deriving DecidableEq, Repr

/-- One side of a comparison; placeholders are numbered from 1. -/
inductive Operand where
  | column (c : Column)
  | placeholder (number : Nat)
  | integer (n : Int64)
deriving DecidableEq, Repr

/-- A comparison of two operands. -/
inductive Comparison where
  | equal (left right : Operand)
  | atMost (left right : Operand)
deriving DecidableEq, Repr

/-- A table, under another name if one is given. -/
structure Source where
  table : String
  shortName : Option String := none
deriving DecidableEq, Repr

/-- The name under which a source is known in its statement. -/
def Source.label (s : Source) : String := s.shortName.getD s.table

/-- What a row has to satisfy.  The two forms with a source of their own are the subselects by which
a snapshot looks at the actions of a design, and the last one is how an optional filter is bound
without changing the text of the statement. -/
inductive Condition where
  | compare (c : Comparison)
  /-- The source has a row for which all comparisons hold. -/
  | someRow (source : Source) (comparisons : List Comparison)
  /-- The source has no row for which all comparisons hold. -/
  | noRow (source : Source) (comparisons : List Comparison)
  /-- The array parameter is empty or has the operand as an element. -/
  | emptyOrAmong (operand : Operand) (number : Nat) (type : ArrayType)
deriving DecidableEq, Repr

/-- The rows of a relation that is given in the statement itself.  Integers are written into the
text, since nothing in them could be quoted wrongly; texts are only ever bound as parameters. -/
inductive Inline where
  /-- Rows of integers. -/
  | values (rows : List (List Int64))
  /-- Rows whose columns are the elements of array parameters. -/
  | unnest (arrays : List (Nat × ArrayType))
deriving DecidableEq, Repr

/-- A named relation in front of a statement.  It hides a table of its name from everything behind
it. -/
structure With where
  name : String
  columns : List String
  rows : Inline
deriving DecidableEq, Repr

/-- A source joined in where all comparisons hold.  Inner joins only: a row without a partner is
dropped, and a row with several is repeated. -/
structure Join where
  source : Source
  on : List Comparison
deriving DecidableEq, Repr

/-- What is selected from the joined rows. -/
inductive Projection where
  | columns (l : List Column)
  /-- The number of rows in which a column is not null, under a name. -/
  | count (c : Column) (label : String)
deriving DecidableEq, Repr

/-- A column that rows are sorted by. -/
structure Order where
  column : Column
  descending : Bool := false
deriving DecidableEq, Repr

/-- A `SELECT` statement; conditions and comparisons in a list all have to hold.  The lists are
printed in the order in which they stand, so that two statements with the same rows may still have
different texts. -/
structure Statement where
  common : Option With := none
  projection : Projection
  source : Source
  joins : List Join := []
  conditions : List Condition := []
  order : List Order := []
deriving DecidableEq, Repr

end DesignHistory.Sql
