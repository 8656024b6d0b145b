import Mathlib.Data.List.Perm.Basic
import DesignHistory.Database.Client
import DesignHistory.Proofs.Sql.Reader
import DesignHistory.Sql.Meaning

/-!
# Databases that hold the tables of a store

A database lists the rows of a table in an order of its own.  What it replies to a query
is found by reading the text that it is sent as a statement, and by taking the rows of
this statement.

## Main definitions

* `Tables.ListedIn`: a database holds the rows of the tables, in any order.
* `Sql.Query.replyOf`: what a database replies to the text of a query.

## Main statements

* `Tables.ListedIn.designs`, `Tables.ListedIn.versions`: the rows of a table are those of
  its records in some order.
* `Sql.Join.extend_map`: a join with the rows of records.
* `Sql.Order.sort_map`: sorting by a column is sorting records by a field.
-/

namespace DesignHistory

open KeyOrder

/-! ### Listings -/

/-- A rearrangement of images comes from a rearrangement of what they are images of. -/
theorem exists_of_perm_map {α β : Type} {f : α → β} {l : List β} {xs : List α}
    (h : l.Perm (xs.map f)) : ∃ ys : List α, ys.Perm xs ∧ l = ys.map f := by
  obtain ⟨ys, hl, hys⟩ := (congrFun₂ (List.eq_map_comp_perm f) l xs).mpr h
  exact ⟨ys, hys, hl⟩

/-- Of elements that are told apart by a key, one at most has a given key. -/
theorem map_filter_of_nodup {α κ β : Type} [BEq κ] [LawfulBEq κ] {key : α → κ} {l : List α}
    (h : (l.map key).Nodup) (k : κ) (b : β) :
    (l.filter fun a => key a == k).map (fun _ => b)
      = if l.any fun a => key a == k then [b] else [] := by
  induction l with
  | nil => rfl
  | cons a rest ih =>
    obtain ⟨hnot, hrest⟩ := List.nodup_cons.1 h
    by_cases ha : key a = k
    · have hnone : rest.filter (fun a => key a == k) = [] := by
        rw [List.filter_eq_nil_iff]
        intro c hc hkey
        exact hnot (List.mem_map.2 ⟨c, hc, (beq_iff_eq.1 hkey).trans ha.symm⟩)
      simp [ha, hnone]
    · have hany : ((a :: rest).any fun a => key a == k) = rest.any fun a => key a == k := by
        simp [ha]
      have hfilter : ((a :: rest).filter fun a => key a == k)
          = rest.filter fun a => key a == k := by
        simp [ha]
      rw [hany, hfilter, ih hrest]

/-- One element or none for each element of a list. -/
theorem flatMap_ite_singleton {α β : Type} (p : α → Bool) (f : α → β) (l : List α) :
    (l.flatMap fun a => if p a then [f a] else []) = (l.filter p).map f := by
  induction l with
  | nil => rfl
  | cons a rest ih =>
    rw [List.flatMap_cons, ih, List.filter_cons]
    split <;> rfl

namespace Tables

open Sql

/-- A database has the rows of the tables, listed in any order.  No two tables need be listed in the
same way. -/
def ListedIn (t : Tables) (db : Sql.Database) : Prop := ∀ name, (db name).Perm (t.database name)

variable {t : Tables} {db : Sql.Database}

theorem listedIn_database (t : Tables) : t.ListedIn t.database := fun _ => List.Perm.refl _

/-- The listed rows of designs. -/
theorem ListedIn.designs (h : t.ListedIn db) :
    ∃ ds : List Design, ds.Perm t.designs.values ∧ db designsTable = ds.map Design.row :=
  exists_of_perm_map (h designsTable)

/-- The listed rows of versions. -/
theorem ListedIn.versions (h : t.ListedIn db) :
    ∃ vs : List Version, vs.Perm t.versions.values ∧ db versionsTable = vs.map Version.row :=
  exists_of_perm_map (h versionsTable)

theorem ListedIn.actions (h : t.ListedIn db) :
    ∃ as : List Action, as.Perm t.actions ∧ db actionsTable = as.map Action.row :=
  exists_of_perm_map (h actionsTable)

end Tables

namespace Sql

/-! ### Replies -/

/-- The names of the columns that a projection makes. -/
def Projection.labels : Projection → List String
  | .columns l => l.map Column.name
  | .count _ label => [label]

/-- The rows of a statement as a reply. -/
def Statement.reply (s : Statement) (db : Database) (parameters : List Parameter) :
    DesignHistory.Database.Reply :=
  .rows s.projection.labels ((s.rows db parameters).map fun row => row.map Prod.snd)

/-- What a database replies to a query, of which it gets the text and the parameters; nothing if the
text is no statement.  The statement is not handed over: it has to be read from the text. -/
def Query.replyOf (q : Query) (db : Database) : Option DesignHistory.Database.Reply :=
  (read q.statement.text).map fun s => s.reply db q.parameters

/-! ### Comparisons -/

/-- Two operands that are not null are equal if their values are. -/
theorem Comparison.holds_equal {parameters : List Parameter} {scope : Scope}
    {left right : Operand} {x y : Value} (hleft : left.cell parameters scope = some x)
    (hright : right.cell parameters scope = some y) :
    (Comparison.equal left right).holds parameters scope = (x == y) := by
  simp only [Comparison.holds, hleft, hright]

/-- Of two operands that are not null one is at most the other if its value is. -/
theorem Comparison.holds_atMost {parameters : List Parameter} {scope : Scope}
    {left right : Operand} {x y : Value} (hleft : left.cell parameters scope = some x)
    (hright : right.cell parameters scope = some y) :
    (Comparison.atMost left right).holds parameters scope = x.atMost y := by
  simp only [Comparison.holds, hleft, hright]

/-- A column that is not null equals a bound value if its value does. -/
theorem holds_isParameter {db : Database} {parameters : List Parameter} {scope : Scope}
    {c : Column} {number : Nat} {x y : Value} (hleft : scope.cell c = some x)
    (hright : (Operand.placeholder number).cell parameters scope = some y) :
    (isParameter c number).holds db parameters scope = (x == y) := by
  have hcell : (Operand.column c).cell parameters scope = some x := hleft
  show (Comparison.equal (.column c) (.placeholder number)).holds parameters scope = _
  exact Comparison.holds_equal hcell hright

@[simp]
theorem Value.int8_beq (m n : Int64) : (Value.int8 m == Value.int8 n) = (m == n) := by
  by_cases h : m = n <;> simp [h]

/-! ### Joins -/

/-- The scopes of a source whose rows are those of records. -/
theorem Source.scopes_map {α : Type} {source : Source} {db : Database} {rowOf : α → Row}
    {l : List α} (h : db source.table = l.map rowOf) :
    source.scopes db = l.map fun a => [(source.label, rowOf a)] := by
  rw [Source.scopes, h, List.map_map]
  rfl

/-- A join with the rows of records puts each scope together with the records for which the
comparisons hold.  Rows and scopes are images of records here, so that a join of rows becomes one of
records. -/
theorem Join.extend_map {α β : Type} {j : Join} {db : Database} {parameters : List Parameter}
    {scopeOf : α → Scope} {rowOf : β → Row} {bs : List β}
    (h : db j.source.table = bs.map rowOf) {p : α → β → Bool}
    (hon : ∀ a b, allHold parameters (scopeOf a ++ [(j.source.label, rowOf b)]) j.on = p a b)
    (as : List α) :
    j.extend db parameters (as.map scopeOf)
      = as.flatMap fun a => (bs.filter (p a)).map fun b =>
          scopeOf a ++ [(j.source.label, rowOf b)] := by
  rw [Join.extend, h, List.flatMap_map]
  refine List.flatMap_congr fun a _ => ?_
  rw [List.map_map, List.filter_map]
  exact congrArg _ (List.filter_congr fun b _ => hon a b)

/-! ### Sorting -/

/-- Sorting images by a column of integers is sorting by what the column shows. -/
theorem Order.sort_map {α : Type} {c : Column} {f : α → Scope} (key : α → Int64)
    (h : ∀ a, (f a).cell c = some (.int8 (key a))) (l : List α) :
    Order.sort ⟨c, false⟩ (l.map f) = (sortOn key l).map f := by
  show sortOn (fun scope : Scope => sortKey (scope.cell c)) (l.map f) = _
  rw [sortOn_map]
  refine congrArg (List.map f) (sortOn_congr (fun a b => ?_) l)
  rw [h, h]
  show (before (0 : Int64) 0 || (!before (0 : Int64) 0 && before (key a) (key b))) = _
  rw [KeyOrder.irrefl]
  rfl

end Sql

end DesignHistory
