import DesignHistory.Database.Reply
import DesignHistory.Json.Records

/-!
# Replies as JSON

What a database answers can be written down as a JSON value: an object with the
columns, each a name and an SQL type, and the rows, or with the message of an
error.

## Main definitions

* `Database.Reply.ofJson`: reading a reply.
* `Database.CellType`: the types that columns may have.

A member that is left out is an empty list.  A reply without columns has no rows.
-/

namespace DesignHistory.Database

open Json (optionalField)
open Sql (Value Cell)

/-- The SQL type of a column.  The value of a cell is read by the type of its column, since a number
alone does not tell the width of an integer. -/
inductive CellType where
  | int8
  | int4
  | int2
  | text
  | timestamptz
deriving DecidableEq, Repr

/-- The type of a name. -/
def CellType.ofName? (name : String) : Option CellType :=
  if name = "int8" then some .int8
  else if name = "int4" then some .int4
  else if name = "int2" then some .int2
  else if name = "text" then some .text
  else if name = "timestamptz" then some .timestamptz
  else none

/-- A value of a type.  A database keeps an instant to the microsecond. -/
def CellType.readValue (type : CellType) (j : Json) : Json.Read Value :=
  match type with
  | .int8 => (Json.readInt64 j).map .int8
  | .int4 => do
    let n ← Json.readInt64 j
    if n.toInt32.toInt64 = n then return .int4 n.toInt32 else .error .shape
  | .int2 => do
    let n ← Json.readInt64 j
    if n.toInt16.toInt64 = n then return .int2 n.toInt16 else .error .shape
  | .text => (Json.readText j).map .text
  | .timestamptz => (Instant.ofJson j).map fun t => .timestamptz t.toMicros

/-- A cell of a column of a type. -/
def CellType.readCell (type : CellType) (j : Json) : Json.Read Cell :=
  match j with
  | .null => .ok none
  | j => (type.readValue j).map some

/-- A column: its name and its type. -/
def readColumn (j : Json) : Json.Read (String × CellType) :=
  match j with
  | .array [name, type] => do
    return (← Json.readText name, ← Json.need (CellType.ofName? (← Json.readText type)))
  | _ => .error .shape

/-- The cells of a row, one for each column. -/
def readCells : List CellType → List Json → Json.Read (List Cell)
  | [], [] => .ok []
  | type :: types, j :: items => do return (← type.readCell j) :: (← readCells types items)
  | _, _ => .error .shape

/-- A row of cells of the given types. -/
def readCellRow (types : List CellType) (j : Json) : Json.Read (List Cell) := do
  readCells types (← Json.need j.asArray?)

/-- The reply that a value denotes.  A refused connection counts before a refused statement, and
either before rows; without columns there are no rows. -/
def Reply.ofJson (j : Json) : Json.Read Reply := do
  let j ← Json.readObject j
  if let some message ← optionalField "startup_error" Json.readText j then
    return .rejected message
  if let some message ← optionalField "error" Json.readText j then
    return .refused message
  let columns := (← optionalField "columns" (Json.readList readColumn) j).getD []
  let rows := (← optionalField "rows" (Json.readList (readCellRow (columns.map (·.2)))) j).getD []
  return .rows (columns.map (·.1)) (if columns.isEmpty then [] else rows)

end DesignHistory.Database
