import DesignHistory.Sql
import DesignHistory.Text.Decimal

/-!
# The text of SQL statements

Statements are written on one line with single blanks, keywords in capitals.

## Main definitions

* `Sql.Statement.text`: the text of a statement.

Numbers are the only part of a text that does not come from a fixed vocabulary,
and they are written in decimal: nothing that a caller passes in can change the
form of a statement.
-/

namespace DesignHistory.Sql

/-- The text of a column. -/
def Column.text (c : Column) : String :=
  match c.relation with
  | some relation => relation ++ "." ++ c.name
  | none => c.name

/-- The text of a placeholder. -/
def placeholderText (number : Nat) : String := "$" ++ Decimal.ofNat number

/-- The text of an operand.  A placeholder is written by its number, an integer by its decimal
digits. -/
def Operand.text : Operand → String
  | .column c => c.text
  | .placeholder number => placeholderText number
  | .integer n => Decimal.ofInt64 n

/-- The text of a comparison. -/
def Comparison.text : Comparison → String
  | .equal left right => left.text ++ " = " ++ right.text
  | .atMost left right => left.text ++ " <= " ++ right.text

/-- Comparisons that all have to hold. -/
def allText (comparisons : List Comparison) : String :=
  " AND ".intercalate (comparisons.map Comparison.text)

/-- The text of a source. -/
def Source.text (s : Source) : String :=
  match s.shortName with
  | some name => s.table ++ " " ++ name
  | none => s.table

/-- An array parameter with its type. -/
def arrayText (number : Nat) : ArrayType → String
  | .bigint => placeholderText number ++ "::bigint[]"
  | .text => placeholderText number ++ "::text[]"

/-- The rows of a source for which comparisons hold, in parentheses. -/
def subselectText (source : Source) (comparisons : List Comparison) : String :=
  "( SELECT 1 FROM " ++ source.text ++ " WHERE " ++ allText comparisons ++ " )"

/-- The text of a condition.  Subselects and the test for an array are written with brackets around
them, so that no operator outside can take hold of a part of them. -/
def Condition.text : Condition → String
  | .compare c => c.text
  | .someRow source comparisons => "EXISTS " ++ subselectText source comparisons
  | .noRow source comparisons => "NOT EXISTS " ++ subselectText source comparisons
  | .emptyOrAmong operand number type =>
    "(cardinality(" ++ arrayText number type ++ ") = 0 OR " ++ operand.text ++ " = ANY("
      ++ placeholderText number ++ "))"

/-- A row of integers. -/
def rowText (row : List Int64) : String :=
  "(" ++ ", ".intercalate (row.map fun n => Decimal.ofInt64 n ++ "::bigint") ++ ")"

/-- The text of an inline relation.  Rows of integers are spelled out; arrays are referred to by
their placeholders, with the type that they have on the side of the database. -/
def Inline.text : Inline → String
  | .values rows => "VALUES " ++ ", ".intercalate (rows.map rowText)
  | .unnest arrays =>
    " SELECT * FROM UNNEST(" ++ ", ".intercalate (arrays.map fun a => arrayText a.1 a.2) ++ ") "

/-- The text of a named relation, up to the statement that uses it. -/
def With.text (w : With) : String :=
  "WITH " ++ w.name ++ " (" ++ ", ".intercalate w.columns ++ ") AS (" ++ w.rows.text ++ ") "

/-- The text of a join. -/
def Join.text (j : Join) : String :=
  " INNER JOIN " ++ j.source.text ++ " ON " ++ allText j.on

/-- The text of a projection. -/
def Projection.text : Projection → String
  | .columns l => ", ".intercalate (l.map Column.text)
  | .count c label => "COUNT(" ++ c.text ++ ") AS " ++ label

/-- The text of a sort column. -/
def Order.text (o : Order) : String :=
  o.column.text ++ (if o.descending then " DESC" else "")

/-- The text of the conditions, if there are any. -/
def whereText : List Condition → String
  | [] => ""
  | conditions => " WHERE " ++ " AND ".intercalate (conditions.map Condition.text)

/-- The text of the sort columns, if there are any. -/
def orderText : List Order → String
  | [] => ""
  | order => " ORDER BY " ++ ", ".intercalate (order.map Order.text)

/-- **The text of a statement**, all on one line.  Nothing in it is quoted: names are those of the
schema, and values from outside are integers or stand behind placeholders. -/
def Statement.text (s : Statement) : String :=
  (match s.common with
    | some common => common.text
    | none => "")
    ++ "SELECT " ++ s.projection.text ++ " FROM " ++ s.source.text
    ++ String.join (s.joins.map Join.text) ++ whereText s.conditions ++ orderText s.order

end DesignHistory.Sql
