import DesignHistory.Proofs.Database.Columns
import DesignHistory.Proofs.Sql.Relations
import DesignHistory.Proofs.Sql.RoundTrip

/-!
# What a database replies

A database that gets the text of a statement replies with the rows of the statement.
The cells of a record, under the names of its columns, are read as the record.  A joined
row has the columns of two records, with two of the names occurring twice, and is read as
the pair.

## Main definitions

* `Database.joinedColumns`: the columns of a design and of a version after it.
* `Database.designReply`: the reply with the rows of designs.

## Main statements

* `Database.replyOf_eq`: the reply to a text.
* `Database.readDesign_cells`: one record from its cells.
* `Database.readAll_cells`, `Database.readJoined_cells`: all records from their rows.
* `Database.result_designReply`: what becomes of a request for designs.
-/

namespace DesignHistory.Database

open Sql

/-! ### Texts -/

/-- What a database replies to a statement that can be read from its text.  From here on the text is
out of the way, and only the meaning of the statement is left. -/
theorem replyOf_eq {q : Query} (h : q.statement.isWellFormed = true) (db : Sql.Database) :
    q.replyOf db = some (q.statement.reply db q.parameters) := by
  rw [Query.replyOf, read_text h]
  rfl

/-! ### Designs -/

/-- The cells of a design under the names of its columns. -/
theorem readDesign_cells (d : Design) :
    readDesign ⟨designColumns, d.row.map Prod.snd⟩ = .ok d := rfl

/-- Reading what was written gives back a list, if it does so for its elements. -/
theorem mapM_map_eq_ok {α β ε : Type} (read : β → Except ε α) (write : α → β) {l : List α}
    (h : ∀ a ∈ l, read (write a) = .ok a) : (l.map write).mapM read = .ok l := by
  induction l with
  | nil => rfl
  | cons a rest ih =>
    rw [List.map_cons, List.mapM_cons, h a List.mem_cons_self,
      ih fun b hb => h b (List.mem_cons_of_mem _ hb)]
    rfl

/-- Records are read back from their rows. -/
theorem readAll_cells {α : Type} {read : Database.Row → Read α} {columns : List String}
    {cells : α → List Cell} (h : ∀ a, read ⟨columns, cells a⟩ = .ok a) (l : List α) :
    readAll read columns (l.map cells) = .ok l := by
  rw [readAll, rowsOf, List.map_map]
  exact mapM_map_eq_ok read _ fun a _ => h a

/-- The reply with the rows of designs. -/
def designReply (l : List Design) : Reply :=
  .rows designColumns (l.map fun d => d.row.map Prod.snd)

/-- A request for designs reads them back from the reply with their rows.  Neither the query nor the
purpose matters for what is read. -/
theorem result_designReply (query : Query) (purpose : Purpose) (l : List Design) :
    ((Plan.request ((allRows query purpose readDesign).map Answer.designs)).perform
      (designReply l)).result = .ok (.designs l) := by
  have hread := readAll_cells readDesign_cells l
  simp only [designReply, Plan.perform, Request.perform, Request.map, allRows, hread, Except.map]

/-! ### Joined rows -/

/-- The columns of a design and of a version after it. -/
def joinedColumns : List String := designColumns ++ versionColumns

/-- Pinned designs are read back from joined rows.  They have to belong together, since a row of two
issues is refused. -/
theorem readJoined_cells {l : List PinnedDesign} (h : ∀ p ∈ l, p.Consistent) :
    readJoined joinedColumns (l.map fun p => (p.design.row ++ p.version.row).map Prod.snd)
      = .ok l := by
  have hshows : List.Forall₂ (Shows designColumns versionColumns)
      (l.map fun p => (p.design.row ++ p.version.row).map Prod.snd)
      (l.map fun p => (p.design, p.version)) := by
    rw [List.forall₂_map_left_iff, List.forall₂_map_right_iff, List.forall₂_same]
    exact fun p _ => ⟨fun _ hfield => hfield, fun _ hfield => hfield⟩
  have hnone : (l.map fun p => (p.design, p.version)).find?
      (fun pair => pair.1.issueId != pair.2.issueId) = none := by
    rw [List.find?_eq_none]
    intro pair hpair
    obtain ⟨p, hp, rfl⟩ := List.mem_map.1 hpair
    simp [(h p hp).issueId]
  rw [joinedColumns, readJoined_of_shows ⟨rfl, by decide⟩ ⟨rfl, by decide⟩ hshows, mapM_ofPair,
    pinnedOrMismatch, hnone, List.map_map]
  have hid : l.map ((fun pair => PinnedDesign.of pair.1 pair.2) ∘ fun p => (p.design, p.version))
      = l :=
    (List.map_congr_left fun p hp => PinnedDesign.of_eq (h p hp).pin).trans (List.map_id l)
  rw [hid]

end DesignHistory.Database
