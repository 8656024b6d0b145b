import DesignHistory.Proofs.Database.Replies
import DesignHistory.Proofs.Sql.Selections

/-!
# Selections asked of a database

A database that holds the tables of a store answers a selection as the store does: the
records that are read from its reply are the selected ones in their order, and the number
in its reply is their number.

## Main statements

* `Database.answers_selection`: both requests that are made for a selection.
-/

namespace DesignHistory.Database

open Sql

variable {t : Tables} {db : Sql.Database} {s : Selection}

/-- The reply to the request for the records of a selection. -/
theorem reply_loadPinned (ht : t.Keyed) (hdb : t.ListedIn db) (hs : s.Normal) :
    (s.statement .records).reply db []
      = .rows joinedColumns
          ((t.select s).map fun p => (p.design.row ++ p.version.row).map Prod.snd) := by
  rw [Statement.reply, Selection.rows_statement ht hs hdb, List.map_map]
  rfl

/-- The reply to the request for the number of records of a selection. -/
theorem reply_countPinned (hdb : t.ListedIn db) (hs : s.Normal) :
    (s.statement .count).reply db []
      = .rows ["count"] [[some (.int8 (Int64.ofNat (t.select s).length))]] := by
  rw [Statement.reply, Selection.rows_statement_count hs hdb]
  rfl

/-- **A database selects what is selected in memory.** One that holds tables with unique ids replies
to the text of a selection, in whatever order it lists the rows, with the records that are selected
in memory and with their number.  A selection that matches nothing has no statement that could be
read. -/
theorem answers_selection (ht : t.Keyed) (hdb : t.ListedIn db) (chain : List Restriction)
    (hchain : (Selection.ofChain chain).matchesNothing = false) :
    (∃ reply, (loadPinned (.ofChain chain)).query.replyOf db = some reply
        ∧ ((loadPinned (.ofChain chain)).perform reply).result
          = .ok (t.select (.ofChain chain)))
      ∧ ∃ reply, (countPinned (.ofChain chain)).query.replyOf db = some reply
        ∧ reply = .rows ["count"] [[some (.int8 (Int64.ofNat (t.select (.ofChain chain)).length))]]
        ∧ ((countPinned (.ofChain chain)).perform reply).result
          = .ok (Int64.ofNat (t.select (.ofChain chain)).length) := by
  have hs := Selection.normal_ofChain chain
  have hload := replyOf_eq (q := (loadPinned (.ofChain chain)).query)
    (Selection.isWellFormed_statement hchain .records) db
  have hcount := replyOf_eq (q := (countPinned (.ofChain chain)).query)
    (Selection.isWellFormed_statement hchain .count) db
  refine ⟨⟨_, hload, ?_⟩, _, hcount, reply_countPinned hdb hs, ?_⟩
  · have hrecords := readJoined_cells (l := t.select (.ofChain chain))
      fun p hp => Selection.consistent_of_mem_select hp
    show ((loadPinned (.ofChain chain)).perform
      (((Selection.ofChain chain).statement .records).reply db [])).result = _
    rw [reply_loadPinned ht hdb hs, Request.perform]
    simp only [loadPinned, hrecords]
  · show ((countPinned (.ofChain chain)).perform
      (((Selection.ofChain chain).statement .count).reply db [])).result = _
    rw [reply_countPinned hdb hs]
    rfl

/-- A requested pin in a named issue, asked of a store with one design and one version. -/
theorem answers_selection_of_pin :
    ∃ reply, (loadPinned (.ofChain [.pins [⟨2, 3⟩], .issue 1])).query.replyOf
          ((((Store.empty.write (.issue 7 "a")).write (.design ⟨1, 7, 1, "a"⟩ "b")).write
            (.version ⟨1, 7, 1, "a"⟩ [(2, .creation)] default)).tables.database) = some reply
      ∧ ((loadPinned (.ofChain [.pins [⟨2, 3⟩], .issue 1])).perform reply).result
        = .ok ((((Store.empty.write (.issue 7 "a")).write (.design ⟨1, 7, 1, "a"⟩ "b")).write
            (.version ⟨1, 7, 1, "a"⟩ [(2, .creation)] default)).tables.select
              (.ofChain [.pins [⟨2, 3⟩], .issue 1])) := by
  have hkeyed := Store.keyed_write (Store.keyed_write (Store.keyed_write
    (Session.keyed_after []) (.issue 7 "a")) (.design ⟨1, 7, 1, "a"⟩ "b"))
    (.version ⟨1, 7, 1, "a"⟩ [(2, .creation)] default)
  exact (answers_selection hkeyed (Tables.listedIn_database _) [.pins [⟨2, 3⟩], .issue 1]
    (by decide)).1

end DesignHistory.Database
