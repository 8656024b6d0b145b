import DesignHistory.Proofs.Sql.Snapshots
import DesignHistory.Proofs.Store.References

/-!
# The statement about references

References are bound as two arrays, of issues and of filenames, which the statement puts side
by side again and joins with the designs.  A join has a row for each pair: a design for which
two equal references are bound stands in two rows.

## Main definitions

* `DesignReference.row`: a reference as a row of the named relation.
* `Sql.refs`, `Sql.joinRefs`: the named relation and the join with it.
* `Sql.referenceScope`: the rows at which the relations stand for a design and a reference.

## Main statements

* `Sql.extend_refs`: the arrays side by side are the references.
* `Sql.extend_joinRefs`: the join of designs with references.
* `Sql.rows_designsByReference`: its rows are the designs, each as often as references point at
  it.
-/

namespace DesignHistory

open Sql

/-- A reference as a row. -/
def DesignReference.row (r : DesignReference) : Row :=
  [("issue_id", some (.int8 r.issueId)), ("filename", some (.text r.filename))]

namespace Sql

variable {t : Tables} {db : Database}

/-! ### Arrays side by side -/

/-- Two columns that are made from one list are its elements again, side by side. -/
theorem zipColumns_map {α : Type} (f g : α → Value) (l : List α) :
    zipColumns [l.map f, l.map g] = l.map fun a => [some (f a), some (g a)] := by
  have hheight : ([l.map f, l.map g].map List.length).foldl max 0 = l.length := by simp
  rw [zipColumns, hheight]
  refine List.ext_getElem (by simp) fun i hi _ => ?_
  have hlt : i < l.length := by simpa using hi
  simp [hlt]

/-- The named relation of the statement. -/
def refs : With := ⟨refsRelation, ["issue_id", "filename"], .unnest [(1, .bigint), (2, .text)]⟩

/-- The rows of the named relation are the references. -/
theorem extend_refs (references : List DesignReference) (db : Database) :
    refs.extend db (designsByReference references).parameters refsRelation
      = references.map DesignReference.row := by
  have hname : refsRelation = refs.name := rfl
  rw [With.extend, if_pos hname]
  show (zipColumns [(references.map fun r => r.issueId).map Value.int8,
    (references.map fun r => r.filename).map Value.text]).map
      (fun row => ["issue_id", "filename"].zip row) = _
  rw [List.map_map, List.map_map, zipColumns_map, List.map_map]
  rfl

/-! ### Joined rows -/

/-- The rows at which the table of designs and the references stand. -/
def referenceScope (d : Design) (r : DesignReference) : Scope :=
  designScope d ++ [(refsRelation, r.row)]

/-- References join the designs that they point at. -/
def joinRefs : Join where
  source := ⟨refsRelation, none⟩
  on := [
    sameColumn (of refsRelation "issue_id") (of "d" "issue_id"),
    sameColumn (of refsRelation "filename") (of "d" "filename")]

/-- The comparisons of the join hold where the reference points at the design. -/
theorem allHold_joinRefs (parameters : List Parameter) (d : Design) (r : DesignReference) :
    allHold parameters (referenceScope d r) joinRefs.on = (r == d.reference) := by
  have hissue : (sameColumn (of refsRelation "issue_id") (of "d" "issue_id")).holds parameters
      (referenceScope d r) = (Value.int8 r.issueId == Value.int8 d.issueId) :=
    Comparison.holds_equal rfl rfl
  have hfilename : (sameColumn (of refsRelation "filename") (of "d" "filename")).holds parameters
      (referenceScope d r) = (Value.text r.filename == Value.text d.filename) :=
    Comparison.holds_equal rfl rfl
  obtain ⟨issueId, filename⟩ := r
  rw [allHold, joinRefs, List.all_cons, List.all_cons, List.all_nil, hissue, hfilename,
    Bool.eq_iff_iff]
  simp [Design.reference]

/-- A design is joined with each of the references that point at it.  This is where a repeated
reference repeats a row. -/
theorem extend_joinRefs {references : List DesignReference}
    (hr : db refsRelation = references.map DesignReference.row) (parameters : List Parameter)
    (ds : List Design) :
    joinRefs.extend db parameters (ds.map designScope)
      = (designsPerReference references ds).map fun d => referenceScope d d.reference := by
  rw [Join.extend_map hr (allHold_joinRefs parameters), designsPerReference, List.map_flatMap]
  refine List.flatMap_congr fun d _ => ?_
  rw [List.filter_beq, List.map_replicate, List.map_replicate]
  rfl

/-- The joined rows of the statement. -/
theorem scopes_designsByReference {ds : List Design} (hd : db designsTable = ds.map Design.row)
    (references : List DesignReference) :
    (designsByReference references).statement.scopes db (designsByReference references).parameters
      = (designsPerReference references ds).map fun d => referenceScope d d.reference := by
  have hdesigns : Source.scopes ⟨designsTable, some "d"⟩
      (refs.extend db (designsByReference references).parameters) = ds.map designScope := by
    -- the named relation hides no table
    have hne : designsTable ≠ refs.name := by decide
    exact Source.scopes_map ((if_neg hne).trans hd)
  show (joinRefs.extend (refs.extend db (designsByReference references).parameters) _
    (Source.scopes ⟨designsTable, some "d"⟩ (refs.extend db _))).filter (fun _ => true) = _
  rw [hdesigns, extend_joinRefs (extend_refs references db), List.filter_true]

/-! ### Rows -/

/-- Designs that are found for each reference in turn are in the order of their ids. -/
theorem pairwise_designsPerReference (ht : t.Keyed) (references : List DesignReference) :
    (designsPerReference references t.designs.values).Pairwise fun d e =>
      KeyOrder.before e.id d.id = false := by
  refine List.pairwise_flatMap.2 ⟨fun d _ => ?_, ht.pairwise_designs.imp fun hde => ?_⟩
  · exact List.pairwise_replicate.2 (.inr (KeyOrder.irrefl d.id))
  · rintro d' hd' e' he'
    rw [(List.mem_replicate.1 hd').2, (List.mem_replicate.1 he').2]
    exact KeyOrder.asymm hde

/-- **The rows of the statement are the designs in the order of their ids**, each as often as
references point at it. -/
theorem rows_designsByReference (ht : t.Keyed) (hdb : t.ListedIn db)
    (references : List DesignReference) :
    (designsByReference references).rows db
      = (designsPerReference references t.designs.values).map Design.row := by
  obtain ⟨ds, hds, hd⟩ := hdb.designs
  have hkey : ∀ d ∈ designsPerReference references t.designs.values,
      ∀ e ∈ designsPerReference references t.designs.values, d.id = e.id → d = e := by
    intro d hd e he
    exact eq_of_key_eq ht.pairwise_designs (mem_of_mem_designsPerReference hd)
      (mem_of_mem_designsPerReference he)
  have hperm : (designsPerReference references ds).Perm
      (designsPerReference references t.designs.values) := hds.flatMap_right _
  show Projection.rows (Order.sort ⟨of "d" "id", false⟩ ((designsByReference
    references).statement.scopes db (designsByReference references).parameters))
      (.columns (designColumns.map (of "d"))) = _
  rw [scopes_designsByReference hd, Order.sort_map (fun d : Design => d.id) (fun d => rfl),
    sortOn_eq_of_perm_of_inj hperm (pairwise_designsPerReference ht references) hkey,
    Projection.rows, List.map_map]
  rfl

theorem isWellFormed_designsByReference (references : List DesignReference) :
    (designsByReference references).statement.isWellFormed = true := by
  show (designsByReference []).statement.isWellFormed = true
  decide

end Sql

end DesignHistory
