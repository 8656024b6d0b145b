import DesignHistory.Proofs.Sql.Lexer
import DesignHistory.Sql

/-!
# Reading SQL texts

A text is read as the statement that its grammar makes of it: a reader for each kind of
phrase takes the phrase off the front of a list of tokens, or fails.  The readers know
nothing of how statements are printed; that they read a printed statement as the one it
was printed from is proved in `DesignHistory.Proofs.Sql.RoundTrip`.

## Main definitions

* `Sql.Reader`: takes a phrase off the front of a list of tokens.
* `Sql.readList`, `Sql.readMany`: several phrases with a token between them, or each with
  a token in front.
* `Sql.readStatement`: a `SELECT` with everything that belongs to it.
* `Sql.read`: the statement that a whole text denotes.

A sign is read as a part of its number.  In SQL it applies to what a cast makes of the
number, which is the same except that the smallest number cannot be written.
-/

namespace DesignHistory.Sql

/-- Takes a phrase off the front of a list of tokens.  A reader knows nothing of the printer: it is
written from the grammar, so that a text is given a meaning by itself. -/
abbrev Reader (α : Type) := List String → Option (α × List String)

/-! ### Words and lists -/

/-- What is left after fixed tokens. -/
def skip : List String → List String → Option (List String)
  | [], ts => some ts
  | _ :: _, [] => none
  | e :: es, t :: ts => if t = e then skip es ts else none

/-- Phrases with a token between them, at least one.  The test of the length is there for
termination; no reader of a phrase ever fails it. -/
def readList {α : Type} (separator : String) (read : Reader α) (ts : List String) :
    Option (List α × List String) :=
  match read ts with
  | none => none
  | some (a, rest) =>
    match skip [separator] rest with
    | none => some ([a], rest)
    | some rest =>
      if rest.length < ts.length then
        (readList separator read rest).map fun (l, rest) => (a :: l, rest)
      else none
termination_by ts.length

/-- Phrases that start with a token, as many as there are.  The token stays in front for the reader
of the phrase. -/
def readMany {α : Type} (start : String) (read : Reader α) (ts : List String) :
    Option (List α × List String) :=
  match skip [start] ts with
  | none => some ([], ts)
  | some _ =>
    match read ts with
    | none => none
    | some (a, rest) =>
      if rest.length < ts.length then
        (readMany start read rest).map fun (l, rest) => (a :: l, rest)
      else none
termination_by ts.length

/-- Phrases after fixed tokens with a token between them, none if the fixed tokens are
not there. -/
def readClause {α : Type} (start : List String) (separator : String) (read : Reader α) :
    Reader (List α) := fun ts =>
  match skip start ts with
  | none => some ([], ts)
  | some ts => readList separator read ts

/-- A name. -/
def readName : Reader String
  | [] => none
  | t :: ts => if isName t then some (t, ts) else none

/-- A number without a sign. -/
def readNumber : Reader Nat
  | [] => none
  | t :: ts => if isNumeral t then some (Decimal.value t.toList, ts) else none

/-- A signed number of 64 bits. -/
def readInteger : Reader Int64 := fun ts =>
  match skip ["-"] ts with
  | some ts => do
    let (n, ts) ← readNumber ts
    if n ≤ Decimal.maxInt64 + 1 then some (Int64.ofInt (-n), ts) else none
  | none => do
    let (n, ts) ← readNumber ts
    if n ≤ Decimal.maxInt64 then some (Int64.ofInt n, ts) else none

/-- The number of a placeholder. -/
def readPlaceholder : Reader Nat := fun ts => (skip ["$"] ts).bind readNumber

/-! ### Comparisons -/

/-- A column, with its relation if there is a point. -/
def readColumn : Reader Column := fun ts => do
  let (name, ts) ← readName ts
  match skip ["."] ts with
  | some ts =>
    let (column, ts) ← readName ts
    some (⟨some name, column⟩, ts)
  | none => some (⟨none, name⟩, ts)

/-- A column, a placeholder or a number. -/
def readOperand : Reader Operand := fun ts =>
  match readColumn ts with
  | some (c, ts) => some (.column c, ts)
  | none =>
    match readPlaceholder ts with
    | some (number, ts) => some (.placeholder number, ts)
    | none => (readInteger ts).map fun (n, ts) => (.integer n, ts)

/-- A comparison of two operands. -/
def readComparison : Reader Comparison := fun ts => do
  let (left, ts) ← readOperand ts
  match skip ["="] ts with
  | some ts =>
    let (right, ts) ← readOperand ts
    some (.equal left right, ts)
  | none =>
    let ts ← skip ["<", "="] ts
    let (right, ts) ← readOperand ts
    some (.atMost left right, ts)

/-- A table, with another name for it if one follows. -/
def readSource : Reader Source := fun ts => do
  let (table, ts) ← readName ts
  match readName ts with
  | some (name, ts) => some (⟨table, some name⟩, ts)
  | none => some (⟨table, none⟩, ts)

/-! ### Conditions -/

/-- A placeholder with its array type. -/
def readArray : Reader (Nat × ArrayType) := fun ts => do
  let (number, ts) ← readPlaceholder ts
  let ts ← skip [":", ":"] ts
  match skip ["bigint"] ts with
  | some ts =>
    let ts ← skip ["[", "]"] ts
    some ((number, .bigint), ts)
  | none =>
    let ts ← skip ["text", "[", "]"] ts
    some ((number, .text), ts)

/-- The rows of a table for which comparisons hold. -/
def readSubselect : Reader (Source × List Comparison) := fun ts => do
  let ts ← skip ["(", "SELECT", "1", "FROM"] ts
  let (source, ts) ← readSource ts
  let ts ← skip ["WHERE"] ts
  let (comparisons, ts) ← readList "AND" readComparison ts
  let ts ← skip [")"] ts
  some ((source, comparisons), ts)

/-- An array parameter that is empty or has an operand as an element. -/
def readEmptyOrAmong : Reader Condition := fun ts => do
  let ts ← skip ["(", "cardinality", "("] ts
  let ((number, type), ts) ← readArray ts
  let ts ← skip [")", "=", "0", "OR"] ts
  let (operand, ts) ← readOperand ts
  let ts ← skip ["=", "ANY", "("] ts
  let (again, ts) ← readPlaceholder ts
  let ts ← skip [")", ")"] ts
  if again = number then some (.emptyOrAmong operand number type, ts) else none

/-- A condition.  The kinds are tried one after the other, and the first token decides which one
succeeds. -/
def readCondition : Reader Condition := fun ts =>
  match readComparison ts with
  | some (c, ts) => some (.compare c, ts)
  | none =>
    match skip ["EXISTS"] ts with
    | some ts => (readSubselect ts).map fun (s, ts) => (.someRow s.1 s.2, ts)
    | none =>
      match skip ["NOT", "EXISTS"] ts with
      | some ts => (readSubselect ts).map fun (s, ts) => (.noRow s.1 s.2, ts)
      | none => readEmptyOrAmong ts

/-! ### Relations given in a statement -/

/-- A number with the type it is cast to. -/
def readCast : Reader Int64 := fun ts => do
  let (n, ts) ← readInteger ts
  let ts ← skip [":", ":", "bigint"] ts
  some (n, ts)

/-- A row of numbers. -/
def readRow : Reader (List Int64) := fun ts => do
  let ts ← skip ["("] ts
  let (row, ts) ← readList "," readCast ts
  let ts ← skip [")"] ts
  some (row, ts)

/-- The rows of an inline relation. -/
def readInline : Reader Inline := fun ts =>
  match skip ["VALUES"] ts with
  | some ts => (readList "," readRow ts).map fun (rows, ts) => (.values rows, ts)
  | none => do
    let ts ← skip ["SELECT", "*", "FROM", "UNNEST", "("] ts
    let (arrays, ts) ← readList "," readArray ts
    let ts ← skip [")"] ts
    some (.unnest arrays, ts)

/-- A named relation in front of a statement. -/
def readWith : Reader With := fun ts => do
  let ts ← skip ["WITH"] ts
  let (name, ts) ← readName ts
  let ts ← skip ["("] ts
  let (columns, ts) ← readList "," readName ts
  let ts ← skip [")", "AS", "("] ts
  let (rows, ts) ← readInline ts
  let ts ← skip [")"] ts
  some (⟨name, columns, rows⟩, ts)

/-! ### Statements -/

/-- The columns that are selected, or the count of one under a name. -/
def readProjection : Reader Projection := fun ts =>
  match readList "," readColumn ts with
  | some (l, ts) => some (.columns l, ts)
  | none => do
    let ts ← skip ["COUNT", "("] ts
    let (column, ts) ← readColumn ts
    let ts ← skip [")", "AS"] ts
    let (label, ts) ← readName ts
    some (.count column label, ts)

/-- A source that is joined in. -/
def readJoin : Reader Join := fun ts => do
  let ts ← skip ["INNER", "JOIN"] ts
  let (source, ts) ← readSource ts
  let ts ← skip ["ON"] ts
  let (on, ts) ← readList "AND" readComparison ts
  some (⟨source, on⟩, ts)

/-- A column to sort by. -/
def readOrder : Reader Order := fun ts => do
  let (column, ts) ← readColumn ts
  match skip ["DESC"] ts with
  | some ts => some (⟨column, true⟩, ts)
  | none => some (⟨column, false⟩, ts)

/-- The named relation in front, if there is one. -/
def readCommon : Reader (Option With) := fun ts =>
  match skip ["WITH"] ts with
  | some _ => (readWith ts).map fun (w, ts) => (some w, ts)
  | none => some (none, ts)

/-- A `SELECT` statement.  Clauses come in the order in which they are printed, and each may be
absent but the projection and the source. -/
def readStatement : Reader Statement := fun ts => do
  let (common, ts) ← readCommon ts
  let ts ← skip ["SELECT"] ts
  let (projection, ts) ← readProjection ts
  let ts ← skip ["FROM"] ts
  let (source, ts) ← readSource ts
  let (joins, ts) ← readMany "INNER" readJoin ts
  let (conditions, ts) ← readClause ["WHERE"] "AND" readCondition ts
  let (order, ts) ← readClause ["ORDER", "BY"] "," readOrder ts
  some ({ common, projection, source, joins, conditions, order }, ts)

/-- **The statement that a text denotes.** No token may be left over. -/
def read (s : String) : Option Statement :=
  match readStatement (tokens s) with
  | some (st, []) => some st
  | _ => none

end DesignHistory.Sql
