import DesignHistory.Proofs.Database.Replies
import DesignHistory.Proofs.Sql.Snapshots

/-!
# Versions asked of a database

A database that holds the tables of a store knows of no stages.  It finds what is in sight
as of a version from the existence of actions, and replies with the designs that going
through the history of each of them leaves in sight.  What a version changed it finds from
a join, and replies with each design once.

## Main definitions

* `Database.withDeletion`: a store in which a version deletes a design.

## Main statements

* `Database.replyOf_of_rows`: the reply to a statement with the rows of designs.
* `Database.answers_snapshots`: both requests that are made for a version.
-/

namespace DesignHistory.Database

open Sql

variable {t : Tables} {db : Sql.Database}

/-- The reply to a query whose rows are those of designs. -/
theorem replyOf_of_rows {q : Query} (hq : q.statement.isWellFormed = true)
    (hlabels : q.statement.projection.labels = designColumns) {l : List Design}
    (hrows : q.rows db = l.map Design.row) : q.replyOf db = some (designReply l) := by
  have hreply : q.statement.reply db q.parameters = .rows q.statement.projection.labels
      ((q.rows db).map fun row => row.map Prod.snd) := rfl
  rw [replyOf_eq hq, hreply, hlabels, hrows, List.map_map]
  rfl

/-- **A database sees what the stages leave in sight.** One that holds tables with unique ids, and
at most one action of a version on a design, replies to the question what is in sight as of a
version with the designs that the stages leave in sight, in whatever order these go through the
records, and to the question what the version changed with the designs that it acted on. -/
theorem answers_snapshots (ht : t.Keyed) (hdb : t.ListedIn db)
    (hactions : (t.actions.map fun a => (a.designId, a.versionId)).Nodup) (v : Version)
    (filter : DesignFilter) {ds : List Design} (hds : ds.Perm t.designs.values)
    {as : List Action} (has : as.Perm t.actions) :
    ((Sql.visibleDesigns v filter).replyOf db = some (designReply (snapshot v ds as filter))
        ∧ ((Call.visibleDesigns v filter).plan.perform
            (designReply (snapshot v ds as filter))).result
          = .ok (.designs (snapshot v ds as filter)))
      ∧ (Sql.changedDesigns v).replyOf db = some (designReply (t.changedDesigns v))
        ∧ ((Call.changedDesigns v).plan.perform (designReply (t.changedDesigns v))).result
          = .ok (.designs (t.changedDesigns v)) := by
  have hsnapshot : snapshot v ds as filter = t.visibleDesigns v filter :=
    snapshot_of_perm hds ht.pairwise_designs has v filter
  rw [hsnapshot]
  refine ⟨⟨?_, result_designReply _ _ _⟩, ?_, result_designReply _ _ _⟩
  · exact replyOf_of_rows (isWellFormed_visibleDesigns v filter) rfl
      (rows_visibleDesigns ht hdb v filter)
  · exact replyOf_of_rows (isWellFormed_changedDesigns v) rfl
      (rows_changedDesigns ht hdb hactions v)

/-- Two designs of an issue, of which a second version deletes one. -/
def withDeletion : Store :=
  let issue : Issue := ⟨1, 7, 1, "a"⟩
  let designs := ((Store.empty.write (.issue 7 "a")).write (.design issue "b")).write
    (.design issue "c")
  (designs.write (.version issue [(2, .creation), (3, .creation)] default)).write
    (.version issue [(2, .deletion)] default)

/-- The second version, asked of a database that lists the rows backwards. -/
theorem answers_snapshots_of_deletion :
    (Sql.visibleDesigns ⟨5, 1, "", none, default⟩ {}).replyOf
          (fun name => (withDeletion.tables.database name).reverse)
        = some (designReply [⟨3, 7, 1, "c"⟩])
      ∧ (Sql.changedDesigns ⟨5, 1, "", none, default⟩).replyOf
          (fun name => (withDeletion.tables.database name).reverse)
        = some (designReply [⟨2, 7, 1, "b"⟩]) := by
  have hkeyed : withDeletion.tables.Keyed := Store.keyed_write (Store.keyed_write
    (Store.keyed_write (Store.keyed_write (Store.keyed_write (Session.keyed_after []) _) _) _) _) _
  have hlisted : withDeletion.tables.ListedIn
      fun name => (withDeletion.tables.database name).reverse := fun name => List.reverse_perm _
  obtain ⟨⟨hvisible, -⟩, hchanged, -⟩ := answers_snapshots hkeyed hlisted (by decide)
    ⟨5, 1, "", none, default⟩ {} (List.Perm.refl _) (List.Perm.refl _)
  have hsnapshot : snapshot ⟨5, 1, "", none, default⟩ withDeletion.tables.designs.values
      withDeletion.tables.actions {} = [⟨3, 7, 1, "c"⟩] := by decide
  have hacted : withDeletion.tables.changedDesigns ⟨5, 1, "", none, default⟩
      = [⟨2, 7, 1, "b"⟩] := by decide
  rw [hsnapshot] at hvisible
  rw [hacted] at hchanged
  exact ⟨hvisible, hchanged⟩

end DesignHistory.Database
