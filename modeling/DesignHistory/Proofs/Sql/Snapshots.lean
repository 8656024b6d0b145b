import DesignHistory.Proofs.Lifecycle.ClosedForm
import DesignHistory.Proofs.Selection.Order
import DesignHistory.Proofs.Sql.Relations
import DesignHistory.Proofs.Sql.RoundTrip

/-!
# The statements about versions

What is in sight as of a version is found in memory by going through the history of
every design, and by a database through the existence of actions of two kinds.  What a
version changed is found in memory by asking for some action on a design, and by a
database through a join with the actions.

## Main definitions

* `Sql.designScope`: the row at which the table of designs stands.

## Main statements

* `Sql.rows_selectDesigns`: designs with conditions, in the order of their ids.
* `Sql.rows_visibleDesigns`: the designs in sight as of a version.
* `Sql.rows_changedDesigns`: the designs that a version changed.
-/

namespace DesignHistory.Sql

variable {t : Tables} {db : Database}

/-! ### Designs with conditions -/

/-- The row at which the table of designs stands. -/
def designScope (d : Design) : Scope := [("d", d.row)]

/-- Designs that satisfy conditions, listed in any order and sorted by id, are those of the table in
its order.  All statements that list designs are brought to this form. -/
theorem rows_selectDesigns (ht : t.Keyed) (hdb : t.ListedIn db) {conditions : List Condition}
    {parameters : List Parameter} {holds : Design → Bool}
    (h : ∀ d, conditions.all (Condition.holds db parameters (designScope d)) = holds d) :
    (selectDesigns conditions [⟨of "d" "id", false⟩]).rows db parameters
      = (t.designs.values.filter holds).map Design.row := by
  obtain ⟨ds, hds, hd⟩ := hdb.designs
  have hscopes : (selectDesigns conditions [⟨of "d" "id", false⟩]).scopes db parameters
      = (ds.filter holds).map designScope := by
    show ((db designsTable).map fun row => [("d", row)]).filter _ = _
    rw [hd, List.map_map, List.filter_map]
    exact congrArg _ (List.filter_congr fun d _ => h d)
  have hsorted : (t.designs.values.filter holds).Pairwise
      fun d e => KeyOrder.before d.id e.id = true := ht.pairwise_designs.filter _
  show Projection.rows (Order.sort ⟨of "d" "id", false⟩ ((selectDesigns conditions
    [⟨of "d" "id", false⟩]).scopes db parameters)) (.columns (designColumns.map (of "d"))) = _
  rw [hscopes, Order.sort_map (fun d : Design => d.id) (fun d => rfl),
    sortOn_eq_of_perm (hds.filter _) hsorted, Projection.rows, List.map_map]
  rfl

/-- A selection of designs can be read from its text if its conditions can. -/
theorem isWellFormed_selectDesigns {conditions : List Condition}
    (h : conditions.all Condition.isWellFormed = true) :
    (selectDesigns conditions [⟨of "d" "id", false⟩]).isWellFormed = true := by
  have hprojection : (Projection.columns (designColumns.map (of "d"))).isWellFormed = true := by
    decide
  have hsource : Source.isNamed ⟨designsTable, some "d"⟩ = true := by decide
  have horder : (of "d" "id").isNamed = true := by decide
  simp only [Statement.isWellFormed, selectDesigns, hprojection, hsource, horder, h,
    Option.all_none, List.all_nil, List.all_cons, Bool.and_true]

/-! ### Designs in sight -/

/-- The values that are bound to an array have the members of the list. -/
private theorem contains_map {α : Type} [BEq α] [LawfulBEq α] {value : α → Value}
    (hvalue : Function.Injective value) (l : List α) (a : α) :
    (l.map value).contains (value a) = l.contains a := by
  rw [Bool.eq_iff_iff, List.contains_iff_mem, List.contains_iff_mem,
    List.mem_map_of_injective hvalue]

private theorem code_beq_deletion (e : Event) :
    (Value.int2 e.code == Value.int2 Event.deletion.code) = (e == .deletion) := by
  cases e <;> decide

/-- The parameters of the statement about what is in sight. -/
def visibleParameters (v : Version) (filter : DesignFilter) : List Parameter :=
  [.int8 v.issueId, .int8 v.id, .int2 Event.deletion.code, .int8Array filter.ids,
    .textArray filter.filenames]

/-- The comparisons for an action on a design up to a version. -/
private theorem allHold_actedOnBefore (v : Version) (filter : DesignFilter) (a : Action)
    (d : Design) :
    allHold (visibleParameters v filter) (("a", a.row) :: designScope d) actedOnBefore
      = (a.designId == d.id && decide (a.versionId ≤ v.id)) := by
  have hdesign : (sameColumn (of "a" "design_id") (of "d" "id")).holds (visibleParameters v filter)
      (("a", a.row) :: designScope d) = (Value.int8 a.designId == Value.int8 d.id) :=
    Comparison.holds_equal rfl rfl
  have hversion : (Comparison.atMost (col "a" "version_id") (.placeholder 2)).holds
      (visibleParameters v filter) (("a", a.row) :: designScope d)
        = (Value.int8 a.versionId).atMost (.int8 v.id) := Comparison.holds_atMost rfl rfl
  rw [allHold, actedOnBefore, List.all_cons, List.all_cons, List.all_nil, hdesign, hversion]
  simp [Value.atMost]

/-- The conditions of the statement hold for a design if something happened to it up to the version,
no deletion did, and it passes the filter.  The two subselects become the closed form of its
stage. -/
theorem holds_visibleDesigns (hdb : t.ListedIn db) (v : Version) (filter : DesignFilter)
    (d : Design) :
    (visibleDesigns v filter).statement.conditions.all
        (Condition.holds db (visibleParameters v filter) (designScope d))
      = (d.issueId == v.issueId && (Lifecycle.visibleAt t.actions v.id).contains d.id
          && filter.accepts d.id d.filename) := by
  obtain ⟨as, has, ha⟩ := hdb.actions
  have hissue : (isParameter (of "d" "issue_id") 1).holds db (visibleParameters v filter)
      (designScope d) = (Value.int8 d.issueId == Value.int8 v.issueId) :=
    holds_isParameter rfl rfl
  have hhappened : (Condition.someRow ⟨actionsTable, some "a"⟩ actedOnBefore).holds db
      (visibleParameters v filter) (designScope d) = Lifecycle.happened t.actions v.id d.id := by
    show (db actionsTable).any (fun row => allHold (visibleParameters v filter)
      (("a", row) :: designScope d) actedOnBefore) = _
    rw [ha, List.any_map, Lifecycle.happened, ← has.any_eq]
    refine congrArg as.any (funext fun a => ?_)
    exact allHold_actedOnBefore v filter a d
  have hended : (Condition.noRow ⟨actionsTable, some "a"⟩
      (actedOnBefore ++ [.equal (col "a" "event") (.placeholder 3)])).holds db
      (visibleParameters v filter) (designScope d) = !Lifecycle.ended t.actions v.id d.id := by
    show (!(db actionsTable).any fun row => allHold (visibleParameters v filter)
      (("a", row) :: designScope d)
        (actedOnBefore ++ [.equal (col "a" "event") (.placeholder 3)])) = _
    rw [ha, List.any_map, Lifecycle.ended, ← has.any_eq]
    refine congrArg (fun p => !as.any p) (funext fun a => ?_)
    have hevent : (Comparison.equal (col "a" "event") (.placeholder 3)).holds
        (visibleParameters v filter) (("a", a.row) :: designScope d)
          = (Value.int2 a.event.code == Value.int2 Event.deletion.code) :=
      Comparison.holds_equal rfl rfl
    rw [Function.comp_apply, allHold, List.all_append, List.all_cons, List.all_nil, hevent,
      code_beq_deletion, Bool.and_true]
    exact congrArg (· && (a.event == .deletion)) (allHold_actedOnBefore v filter a d)
  have hids : (Condition.emptyOrAmong (col "d" "id") 4 .bigint).holds db
      (visibleParameters v filter) (designScope d)
        = (filter.ids.isEmpty || filter.ids.contains d.id) := by
    show ((filter.ids.map Value.int8).isEmpty
      || (filter.ids.map Value.int8).contains (.int8 d.id)) = _
    rw [contains_map fun _ _ => Value.int8.inj, List.isEmpty_map]
  have hfilenames : (Condition.emptyOrAmong (col "d" "filename") 5 .text).holds db
      (visibleParameters v filter) (designScope d)
        = (filter.filenames.isEmpty || filter.filenames.contains d.filename) := by
    show ((filter.filenames.map Value.text).isEmpty
      || (filter.filenames.map Value.text).contains (.text d.filename)) = _
    rw [contains_map fun _ _ => Value.text.inj, List.isEmpty_map]
  have hvisible : (Lifecycle.visibleAt t.actions v.id).contains d.id
      = (Lifecycle.happened t.actions v.id d.id && !Lifecycle.ended t.actions v.id d.id) := by
    rw [Bool.eq_iff_iff, List.contains_iff_mem, Lifecycle.mem_visibleAt_iff]
    simp
  show List.all [isParameter (of "d" "issue_id") 1,
    .someRow ⟨actionsTable, some "a"⟩ actedOnBefore,
    .noRow ⟨actionsTable, some "a"⟩ (actedOnBefore ++ [.equal (col "a" "event") (.placeholder 3)]),
    .emptyOrAmong (col "d" "id") 4 .bigint, .emptyOrAmong (col "d" "filename") 5 .text]
      (Condition.holds db (visibleParameters v filter) (designScope d)) = _
  rw [List.all_cons, List.all_cons, List.all_cons, List.all_cons, List.all_cons, List.all_nil,
    hissue, hhappened, hended, hids, hfilenames, hvisible, DesignFilter.accepts, Value.int8_beq]
  simp only [Bool.and_true, Bool.and_assoc]

/-- **The rows of the statement are the designs that are in sight as of the version.** -/
theorem rows_visibleDesigns (ht : t.Keyed) (hdb : t.ListedIn db) (v : Version)
    (filter : DesignFilter) :
    (visibleDesigns v filter).rows db = (t.visibleDesigns v filter).map Design.row := by
  rw [ht.visibleDesigns_eq_filter]
  exact rows_selectDesigns ht hdb (holds_visibleDesigns hdb v filter)

theorem isWellFormed_visibleDesigns (v : Version) (filter : DesignFilter) :
    (visibleDesigns v filter).statement.isWellFormed = true :=
  isWellFormed_selectDesigns (by decide)

/-! ### Changed designs -/

/-- The rows at which the tables of designs and of actions stand. -/
def actedScope (p : Design × Action) : Scope := [("d", p.1.row), ("a", p.2.row)]

/-- Actions join the designs that they are on. -/
def joinActions : Join where
  source := ⟨actionsTable, some "a"⟩
  on := [sameColumn (of "a" "design_id") (of "d" "id")]

/-- The designs of an issue joined with the actions of a version on them. -/
def acted (v : Version) (ds : List Design) (as : List Action) : List (Design × Action) :=
  ds.flatMap fun d => (as.filter fun a => a.designId == d.id && a.versionId == v.id
    && d.issueId == v.issueId).map fun a => (d, a)

/-- The joined rows that satisfy the conditions are those of the actions of the version on
designs of its issue. -/
theorem scopes_changedDesigns {ds : List Design} {as : List Action}
    (hd : db designsTable = ds.map Design.row) (ha : db actionsTable = as.map Action.row)
    (v : Version) :
    (changedDesigns v).statement.scopes db [.int8 v.id, .int8 v.issueId]
      = (acted v ds as).map actedScope := by
  have hon : ∀ d a, allHold [.int8 v.id, .int8 v.issueId] (actedScope (d, a))
      joinActions.on = (a.designId == d.id) := by
    intro d a
    have hdesign : (sameColumn (of "a" "design_id") (of "d" "id")).holds
        [.int8 v.id, .int8 v.issueId] (actedScope (d, a))
          = (Value.int8 a.designId == Value.int8 d.id) := Comparison.holds_equal rfl rfl
    rw [allHold, joinActions, List.all_cons, List.all_nil, hdesign, Value.int8_beq, Bool.and_true]
  have hconditions : ∀ d a, [isParameter (of "a" "version_id") 1,
      isParameter (of "d" "issue_id") 2].all
        (Condition.holds db [.int8 v.id, .int8 v.issueId] (actedScope (d, a)))
          = (a.versionId == v.id && d.issueId == v.issueId) := by
    intro d a
    have hversion : (isParameter (of "a" "version_id") 1).holds db
        [.int8 v.id, .int8 v.issueId] (actedScope (d, a))
          = (Value.int8 a.versionId == Value.int8 v.id) := holds_isParameter rfl rfl
    have hissue : (isParameter (of "d" "issue_id") 2).holds db
        [.int8 v.id, .int8 v.issueId] (actedScope (d, a))
          = (Value.int8 d.issueId == Value.int8 v.issueId) := holds_isParameter rfl rfl
    rw [List.all_cons, List.all_cons, List.all_nil, hversion, hissue, Value.int8_beq,
      Value.int8_beq, Bool.and_true]
  have hscopes : Source.scopes ⟨designsTable, some "d"⟩ db = ds.map designScope :=
    Source.scopes_map hd
  show (joinActions.extend db _ (Source.scopes ⟨designsTable, some "d"⟩ db)).filter _ = _
  rw [hscopes, Join.extend_map ha hon, List.filter_flatMap, acted, List.map_flatMap]
  refine List.flatMap_congr fun d _ => ?_
  rw [List.map_map, List.filter_map, List.filter_filter]
  refine congrArg (List.map _) (List.filter_congr fun a _ => ?_)
  show ([isParameter (of "a" "version_id") 1, isParameter (of "d" "issue_id") 2].all
    (Condition.holds db [.int8 v.id, .int8 v.issueId] (actedScope (d, a)))
      && a.designId == d.id) = _
  rw [hconditions, Bool.and_comm, Bool.and_assoc]

/-- If a version acts on a design once at most, a design is joined with one action or with
none. -/
theorem map_fst_acted {as : List Action}
    (hnodup : (as.map fun a => (a.designId, a.versionId)).Nodup) (v : Version) (ds : List Design) :
    (acted v ds as).map Prod.fst = ds.filter fun d =>
      d.issueId == v.issueId && as.any fun a => a.versionId == v.id && a.designId == d.id := by
  -- a design that the version acts on twice would be listed twice
  have hone : ∀ d : Design, ((as.filter fun a => a.designId == d.id && a.versionId == v.id
      && d.issueId == v.issueId).map fun a => (d, a)).map Prod.fst
        = if d.issueId == v.issueId && as.any fun a => a.versionId == v.id && a.designId == d.id
          then [id d] else [] := by
    intro d
    rw [List.map_map]
    cases hissue : d.issueId == v.issueId with
    | false => simp
    | true =>
      have hkey : ∀ a : Action, (a.designId == d.id && a.versionId == v.id)
          = ((a.designId, a.versionId) == (d.id, v.id)) := fun _ => rfl
      have hany : (as.any fun a => a.versionId == v.id && a.designId == d.id)
          = as.any fun a => (a.designId, a.versionId) == (d.id, v.id) :=
        congrArg as.any (funext fun a => by rw [← hkey, Bool.and_comm])
      simp only [Bool.and_true, Bool.true_and, hany, hkey]
      exact map_filter_of_nodup hnodup (d.id, v.id) d
  rw [acted, List.map_flatMap, List.flatMap_congr fun d _ => hone d, flatMap_ite_singleton,
    List.map_id]

/-- The rows of the statement are the designs that the version changed, if it acts on a
design once at most. -/
theorem rows_changedDesigns (ht : t.Keyed) (hdb : t.ListedIn db)
    (hnodup : (t.actions.map fun a => (a.designId, a.versionId)).Nodup) (v : Version) :
    (changedDesigns v).rows db = (t.changedDesigns v).map Design.row := by
  obtain ⟨ds, hds, hd⟩ := hdb.designs
  obtain ⟨as, has, ha⟩ := hdb.actions
  have hnodup' : (as.map fun a => (a.designId, a.versionId)).Nodup :=
    ((has.map _).nodup_iff).2 hnodup
  have hchanged : t.changedDesigns v = t.designs.values.filter fun d =>
      d.issueId == v.issueId && as.any fun a => a.versionId == v.id && a.designId == d.id := by
    rw [Tables.changedDesigns, Tables.designsOfIssue, List.filter_filter]
    refine List.filter_congr fun d _ => ?_
    rw [Bool.and_comm, has.any_eq]
  have hsorted : (t.changedDesigns v).Pairwise fun d e => KeyOrder.before d.id e.id = true := by
    rw [hchanged]
    exact ht.pairwise_designs.filter _
  have hperm : ((acted v ds as).map Prod.fst).Perm (t.changedDesigns v) := by
    rw [map_fst_acted hnodup', hchanged]
    exact hds.filter _
  show Projection.rows (Order.sort ⟨of "d" "id", false⟩ ((changedDesigns v).statement.scopes db
    [.int8 v.id, .int8 v.issueId])) (.columns (designColumns.map (of "d"))) = _
  rw [scopes_changedDesigns hd ha, Order.sort_map (fun p : Design × Action => p.1.id)
    (fun p => rfl), ← sortOn_eq_of_perm hperm hsorted, sortOn_map, Projection.rows, List.map_map,
    List.map_map]
  rfl

theorem isWellFormed_changedDesigns (v : Version) :
    (changedDesigns v).statement.isWellFormed = true := by
  show Statement.isWellFormed { selectDesigns [isParameter (of "a" "version_id") 1,
      isParameter (of "d" "issue_id") 2] [⟨of "d" "id", false⟩] with
    joins := [⟨⟨actionsTable, some "a"⟩, [sameColumn (of "a" "design_id") (of "d" "id")]⟩] } = true
  decide

end DesignHistory.Sql
