import DesignHistory.Proofs.Database.Snapshots
import DesignHistory.Proofs.Sql.References

/-!
# References asked of a database

A database joins the designs with the references that are bound, one row for each pair, where
the store asks of each design whether some reference points at it.  The two find the same designs,
but a database repeats a design for each equal reference.  An index is resolved from different
references, and for those both find the same list.

## Main definitions

* `Database.withDesign`: a store with one design.

## Main statements

* `Database.answers_references`: what a database replies to the question about references, and
  when the store gives the same answer.
-/

namespace DesignHistory.Database

open Sql

variable {t : Tables} {db : Sql.Database}

theorem replyOf_designsByReference (ht : t.Keyed) (hdb : t.ListedIn db)
    (references : List DesignReference) :
    (Sql.designsByReference references).replyOf db
      = some (designReply (designsPerReference references t.designs.values)) :=
  replyOf_of_rows (isWellFormed_designsByReference references) rfl
    (rows_designsByReference ht hdb references)

/-- A call about references reads the designs back from a reply with their rows; without a
reference it is settled. -/
theorem result_designsByReference (references : List DesignReference) (l : List Design)
    (hl : references = [] → l = []) :
    ((Call.designsByReference references).plan.perform (designReply l)).result
      = .ok (.designs l) := by
  cases references with
  | nil =>
    rw [hl rfl]
    rfl
  | cons r rest => exact result_designReply _ _ l

/-- **What a database replies about references.** A database that holds tables with unique ids
replies with the designs in the order of their ids, each as often as references point at it.  That
is what the store answers exactly if no reference that points at a design is repeated, so in
particular for the different ones among the references; the store lists a design once. -/
theorem answers_references (ht : t.Keyed) (hdb : t.ListedIn db)
    (references : List DesignReference) :
    ((Sql.designsByReference references).replyOf db
          = some (designReply (designsPerReference references t.designs.values))
        ∧ ((Call.designsByReference references).plan.perform
            (designReply (designsPerReference references t.designs.values))).result
          = .ok (.designs (designsPerReference references t.designs.values)))
      ∧ (designsPerReference references t.designs.values = t.findDesignsByReference references
        ↔ ∀ d ∈ t.designs.values, references.count d.reference ≤ 1)
      ∧ (Sql.designsByReference (distinct references)).replyOf db
          = some (designReply (t.findDesignsByReference references))
      ∧ (t.findDesignsByReference references).Pairwise fun d e =>
          KeyOrder.before d.id e.id = true := by
  refine ⟨⟨replyOf_designsByReference ht hdb references, ?_⟩,
    Tables.designsPerReference_eq_iff, ?_, ht.pairwise_designs.filter _⟩
  · refine result_designsByReference references _ fun hnil => ?_
    subst hnil
    exact List.flatMap_eq_nil_iff.2 fun d _ => rfl
  · rw [replyOf_designsByReference ht hdb, Tables.designsPerReference_distinct]

/-- A store with one design. -/
def withDesign : Store :=
  (Store.empty.write (.issue 7 "a")).write (.design ⟨1, 7, 1, "a"⟩ "b")

theorem keyed_withDesign : withDesign.tables.Keyed :=
  Store.keyed_write (Store.keyed_write (Session.keyed_after []) _) _

/-- The design and a file that there is none of, in a database that lists the rows backwards. -/
theorem answers_references_of_design :
    (Sql.designsByReference [⟨1, "c"⟩, ⟨1, "b"⟩]).replyOf
          (fun name => (withDesign.tables.database name).reverse)
        = some (designReply [⟨2, 7, 1, "b"⟩])
      ∧ withDesign.tables.findDesignsByReference [⟨1, "c"⟩, ⟨1, "b"⟩] = [⟨2, 7, 1, "b"⟩] := by
  have hlisted : withDesign.tables.ListedIn
      fun name => (withDesign.tables.database name).reverse := fun name => List.reverse_perm _
  obtain ⟨⟨hreply, -⟩, hsame, -⟩ := answers_references keyed_withDesign hlisted
    [⟨1, "c"⟩, ⟨1, "b"⟩]
  have hfound : withDesign.tables.findDesignsByReference [⟨1, "c"⟩, ⟨1, "b"⟩]
      = [⟨2, 7, 1, "b"⟩] := by decide
  rw [hsame.2 (by decide), hfound] at hreply
  exact ⟨hreply, hfound⟩

/-- A reference that is bound twice finds its design twice, where the store finds it once. -/
theorem answers_references_differ :
    withDesign.tables.Keyed ∧ withDesign.tables.FilenamesUnique
      ∧ (Sql.designsByReference [⟨1, "b"⟩, ⟨1, "b"⟩]).replyOf withDesign.tables.database
        = some (designReply [⟨2, 7, 1, "b"⟩, ⟨2, 7, 1, "b"⟩])
      ∧ ((Call.designsByReference [⟨1, "b"⟩, ⟨1, "b"⟩]).plan.perform
          (designReply [⟨2, 7, 1, "b"⟩, ⟨2, 7, 1, "b"⟩])).result
        = .ok (.designs [⟨2, 7, 1, "b"⟩, ⟨2, 7, 1, "b"⟩])
      ∧ withDesign.tables.findDesignsByReference [⟨1, "b"⟩, ⟨1, "b"⟩] = [⟨2, 7, 1, "b"⟩] := by
  have htwice : designsPerReference [⟨1, "b"⟩, ⟨1, "b"⟩] withDesign.tables.designs.values
      = [⟨2, 7, 1, "b"⟩, ⟨2, 7, 1, "b"⟩] := by decide
  refine ⟨keyed_withDesign, by decide, ?_, result_designReply _ _ _, by decide⟩
  rw [replyOf_designsByReference keyed_withDesign (Tables.listedIn_database _), htwice]

end DesignHistory.Database
