import DesignHistory.Proofs.Selection.Order
import DesignHistory.Proofs.Sql.Relations
import DesignHistory.Proofs.Sql.RoundTrip

/-!
# The statement of a selection

A selection is answered in memory by running through all pairs of a design and a
version, and by a database through two joins, a condition and an order.  The pairs that
the joins and the condition leave are the selected ones, whatever the order in which the
database lists its rows, and sorting them gives the order of the selection in memory.

## Main definitions

* `Selection.scopeOf`: the rows at which the relations stand for a selected pair.

## Main statements

* `Selection.scopes_statement`: the joined rows of the statement.
* `Selection.isWellFormed_statement`: the statement can be read from its text.
-/

namespace DesignHistory

open Sql

namespace Selection

/-! ### Joined rows -/

/-- A requested pin as a row. -/
def pinRow (p : Pin) : Row :=
  [("design_id", some (.int8 p.designId)), ("version_id", some (.int8 p.versionId))]

/-- The rows at which the two tables stand for a pair. -/
def pairScope (p : PinnedDesign) : Scope :=
  [(designsTable, p.design.row), (versionsTable, p.version.row)]

/-- The rows at which the relations of the statement stand for a selected pair. -/
def scopeOf (s : Selection) (p : PinnedDesign) : Scope :=
  pairScope p ++ (if s.pins.isSome then [(pairsRelation, pinRow p.pin)] else [])

/-- Selected pairs are those of one issue that are accepted. -/
theorem select_eq_filter (s : Selection) (ds : List Design) (vs : List Version) :
    s.select ds vs = (all.select ds vs).filter fun p => s.accepts p.design p.version := by
  unfold select
  rw [List.filter_flatMap]
  refine List.flatMap_congr fun d _ => ?_
  rw [List.filter_map, List.filter_filter]
  refine congrArg (List.map _) (List.filter_congr fun v _ => ?_)
  show s.accepts d v = (s.accepts d v && (d.issueId == v.issueId && true && true))
  cases h : d.issueId == v.issueId with
  | true => simp
  | false => simp [accepts, h]

/-- Joining the versions to the designs gives the pairs of one issue. -/
theorem extend_joinVersions {db : Sql.Database} {ds : List Design} {vs : List Version}
    (hd : db designsTable = ds.map Design.row) (hv : db versionsTable = vs.map Version.row) :
    joinVersions.extend db [] (Source.scopes ⟨designsTable, none⟩ db)
      = (all.select ds vs).map pairScope := by
  have hon : ∀ (d : Design) (v : Version),
      allHold [] ([(designsTable, d.row)] ++ [(versionsTable, v.row)]) joinVersions.on
        = all.accepts d v := by
    intro d v
    have hissue : (sameColumn (of designsTable "issue_id") (of versionsTable "issue_id")).holds []
        (pairScope (.of d v)) = (Value.int8 d.issueId == Value.int8 v.issueId) :=
      Comparison.holds_equal rfl rfl
    show allHold [] (pairScope (.of d v)) joinVersions.on = _
    simp [allHold, joinVersions, hissue, accepts, all]
  have hscopes : Source.scopes ⟨designsTable, none⟩ db = ds.map fun d => [(designsTable, d.row)] :=
    Source.scopes_map hd
  rw [hscopes, Join.extend_map hv hon, select, List.map_flatMap]
  refine List.flatMap_congr fun d _ => ?_
  rw [List.map_map]
  rfl

/-- Of the pairs that are joined with requested pins, each once, those with a requested pin are
left.  The statement compares the ids of the parts, so the pairs must be under the names that these
make. -/
theorem extend_joinPairs {db : Sql.Database} {pins : List Pin} (hpins : pins.Nodup)
    (hp : db pairsRelation = pins.map pinRow) {l : List PinnedDesign}
    (hl : ∀ p ∈ l, p.Consistent) :
    joinPairs.extend db [] (l.map pairScope)
      = (l.filter fun p => pins.contains p.pin).map fun p =>
          pairScope p ++ [(pairsRelation, pinRow p.pin)] := by
  have hon : ∀ (p : PinnedDesign) (q : Pin),
      allHold [] (pairScope p ++ [(pairsRelation, pinRow q)]) joinPairs.on
        = (q == ⟨p.design.id, p.version.id⟩) := by
    intro p q
    have hdesign : (sameColumn (of pairsRelation "design_id") (of designsTable "id")).holds []
        (pairScope p ++ [(pairsRelation, pinRow q)])
          = (Value.int8 q.designId == Value.int8 p.design.id) := Comparison.holds_equal rfl rfl
    have hversion : (sameColumn (of pairsRelation "version_id") (of versionsTable "id")).holds []
        (pairScope p ++ [(pairsRelation, pinRow q)])
          = (Value.int8 q.versionId == Value.int8 p.version.id) := Comparison.holds_equal rfl rfl
    obtain ⟨designId, versionId⟩ := q
    rw [allHold, joinPairs, List.all_cons, List.all_cons, List.all_nil, hdesign, hversion,
      Bool.eq_iff_iff]
    simp
  -- a pair is not doubled, because no pin is requested twice
  have hone : ∀ p ∈ l,
      (pins.filter (· == ⟨p.design.id, p.version.id⟩)).map
          (fun q => pairScope p ++ [(pairsRelation, pinRow q)])
        = if pins.contains p.pin then [pairScope p ++ [(pairsRelation, pinRow p.pin)]] else [] := by
    intro p hmem
    rw [← (hl p hmem).pin, List.filter_beq, hpins.count]
    by_cases hmem : p.pin ∈ pins <;> simp [hmem]
  rw [← flatMap_ite_singleton, Join.extend_map hp hon]
  exact List.flatMap_congr hone

/-- The rows of the relation of requested pins. -/
theorem extend_pairs (pins : List Pin) (db : Sql.Database) :
    (pairs pins).extend db [] pairsRelation = pins.map pinRow := by
  have hname : pairsRelation = (pairs pins).name := rfl
  rw [With.extend, if_pos hname]
  show ((pins.map fun p => [p.designId, p.versionId]).map fun row =>
    row.map fun n => some (Value.int8 n)).map (fun row => ["design_id", "version_id"].zip row) = _
  rw [List.map_map, List.map_map]
  rfl

/-- The conditions of the statement hold where the issue is the named one.  If none was named there
is no condition. -/
theorem holds_conditions (s : Selection) (aspect : Aspect) (db : Sql.Database)
    (p : PinnedDesign) (scope : Scope) :
    (s.statement aspect).conditions.all (Condition.holds db [] (pairScope p ++ scope))
      = s.issueId.all (p.design.issueId == ·) := by
  show (s.issueId.toList.map fun issueId => Condition.compare
    (.equal (col designsTable "issue_id") (.integer issueId))).all _ = _
  cases s.issueId with
  | none => rfl
  | some issueId =>
    have hissue : (Comparison.equal (col designsTable "issue_id") (.integer issueId)).holds []
        (pairScope p ++ scope) = (Value.int8 p.design.issueId == Value.int8 issueId) :=
      Comparison.holds_equal rfl rfl
    show ((Comparison.equal (col designsTable "issue_id") (.integer issueId)).holds []
      (pairScope p ++ scope) && true) = _
    rw [hissue, Bool.and_true, Value.int8_beq]
    rfl

/-- The joins leave the pairs of one issue with a requested pin, if pins were requested;
the conditions are still to come. -/
private theorem exists_scopes_statement {s : Selection} (hs : s.Normal) (aspect : Aspect)
    {db : Sql.Database} {ds : List Design} {vs : List Version}
    (hd : db designsTable = ds.map Design.row) (hv : db versionsTable = vs.map Version.row) :
    ∃ db', (s.statement aspect).scopes db []
      = (((all.select ds vs).filter fun p => s.pins.all fun pins => pins.contains p.pin).map
          s.scopeOf).filter fun scope =>
            (s.statement aspect).conditions.all (Condition.holds db' [] scope) := by
  obtain ⟨pins, issueId⟩ := s
  cases pins with
  | none =>
    have hpins : ((all.select ds vs).filter fun p =>
        (none : Option (List Pin)).all fun pins => pins.contains p.pin) = all.select ds vs :=
      List.filter_eq_self.2 fun _ _ => rfl
    refine ⟨db, ?_⟩
    show (joinVersions.extend db [] (Source.scopes ⟨designsTable, none⟩ db)).filter _ = _
    rw [extend_joinVersions hd hv, hpins]
    rfl
  | some pins =>
    have hnodup : pins.Nodup := (hs pins rfl).imp KeyOrder.ne_of_before
    -- the named relation hides no table
    refine ⟨(pairs pins).extend db [], ?_⟩
    have hd' : (pairs pins).extend db [] designsTable = ds.map Design.row := by
      have hne : designsTable ≠ pairsRelation := by decide
      rw [← hd]
      exact if_neg hne
    have hv' : (pairs pins).extend db [] versionsTable = vs.map Version.row := by
      have hne : versionsTable ≠ pairsRelation := by decide
      rw [← hv]
      exact if_neg hne
    show (joinPairs.extend ((pairs pins).extend db []) [] (joinVersions.extend
      ((pairs pins).extend db []) []
        (Source.scopes ⟨designsTable, none⟩ ((pairs pins).extend db [])))).filter _ = _
    rw [extend_joinVersions hd' hv', extend_joinPairs hnodup (extend_pairs pins db)
      fun p hp => consistent_of_mem_select hp]
    rfl

/-- **The joined rows of the statement are those of the selected pairs.** It holds of rows listed in
any order, since sorting comes later. -/
theorem scopes_statement {s : Selection} (hs : s.Normal) (aspect : Aspect) {db : Sql.Database}
    {ds : List Design} {vs : List Version} (hd : db designsTable = ds.map Design.row)
    (hv : db versionsTable = vs.map Version.row) :
    (s.statement aspect).scopes db [] = (s.select ds vs).map s.scopeOf := by
  have haccepts : ∀ p ∈ all.select ds vs, s.accepts p.design p.version
      = (s.issueId.all (p.design.issueId == ·) && s.pins.all fun pins => pins.contains p.pin) := by
    intro p hp
    have hconsistent := consistent_of_mem_select hp
    rw [Bool.eq_iff_iff, accepts_iff hs, ← hconsistent.pin, Bool.and_eq_true, Option.all_eq_true,
      Option.all_eq_true]
    simp only [beq_iff_eq, List.contains_iff_mem]
    exact ⟨fun ⟨_, h⟩ => h, fun h => ⟨hconsistent.issueId, h⟩⟩
  obtain ⟨db', hscopes⟩ := exists_scopes_statement hs aspect hd hv
  rw [hscopes, select_eq_filter s, List.filter_congr haccepts, ← List.filter_filter,
    List.filter_map]
  refine congrArg _ (List.filter_congr fun p _ => ?_)
  exact holds_conditions s aspect db' p _

theorem cell_designId (s : Selection) (p : PinnedDesign) :
    (s.scopeOf p).cell (of designsTable "id") = some (.int8 p.design.id) := rfl

theorem cell_versionId (s : Selection) (p : PinnedDesign) :
    (s.scopeOf p).cell (of versionsTable "id") = some (.int8 p.version.id) := rfl

/-- The rows that are sorted are in the order of the records of the selection. -/
theorem sortBy_scopes_statement {t : Tables} (ht : t.Keyed) {s : Selection} (hs : s.Normal)
    {db : Sql.Database} (hdb : t.ListedIn db) :
    sortBy (order .records) ((s.statement .records).scopes db [])
      = (t.select s).map s.scopeOf := by
  obtain ⟨ds, hds, hd⟩ := hdb.designs
  obtain ⟨vs, hvs, hv⟩ := hdb.versions
  rw [scopes_statement hs .records hd hv]
  show Order.sort ⟨of designsTable "id", false⟩
    (Order.sort ⟨of versionsTable "id", false⟩ ((s.select ds vs).map s.scopeOf)) = _
  rw [Order.sort_map _ (cell_versionId s), Order.sort_map _ (cell_designId s),
    Tables.sort_select ht s hds hvs]

/-- The row that the statement makes of a selected pair. -/
def joinedRow (p : PinnedDesign) : Row := p.design.row ++ p.version.row

/-- The rows of the statement are those of the selected records in their order. -/
theorem rows_statement {t : Tables} (ht : t.Keyed) {s : Selection} (hs : s.Normal)
    {db : Sql.Database} (hdb : t.ListedIn db) :
    (s.statement .records).rows db [] = (t.select s).map joinedRow := by
  show Projection.rows (sortBy (order .records) ((s.statement .records).scopes db []))
    (projection .records) = _
  rw [sortBy_scopes_statement ht hs hdb]
  show ((t.select s).map s.scopeOf).map _ = _
  rw [List.map_map]
  rfl

/-- The one row of the counting statement has the number of selected records.  What is counted is a
column that is never null, so no row is left out. -/
theorem rows_statement_count {t : Tables} {s : Selection} (hs : s.Normal)
    {db : Sql.Database} (hdb : t.ListedIn db) :
    (s.statement .count).rows db []
      = [[("count", some (.int8 (Int64.ofNat (t.select s).length)))]] := by
  obtain ⟨ds, hds, hd⟩ := hdb.designs
  obtain ⟨vs, hvs, hv⟩ := hdb.versions
  show Projection.rows ((s.statement .count).scopes db []) (projection .count) = _
  rw [scopes_statement hs .count hd hv]
  have hall : ((s.select ds vs).map s.scopeOf).filter
      (fun scope => (scope.cell (of designsTable "id")).isSome)
        = (s.select ds vs).map s.scopeOf := by
    rw [List.filter_eq_self]
    intro scope hscope
    obtain ⟨p, -, rfl⟩ := List.mem_map.1 hscope
    rw [cell_designId]
    rfl
  have hlength := (Tables.select_perm s hds hvs).length_eq
  rw [projection, Projection.rows, hall, List.length_map, hlength]

/-- The statement of a selection is well-formed, apart from the relation of requested pins. -/
theorem isWellFormed_withoutPairs (s : Selection) (aspect : Aspect) :
    ({ s.statement aspect with common := none } : Statement).isWellFormed = true := by
  have hprojection : (projection aspect).isWellFormed = true := by
    cases aspect <;> decide
  have horder : (order aspect).all (fun o => o.column.isNamed) = true := by
    cases aspect <;> decide
  have hconditions : (s.statement aspect).conditions.all Condition.isWellFormed = true := by
    show (s.issueId.toList.map fun issueId => Condition.compare
      (.equal (col designsTable "issue_id") (.integer issueId))).all _ = true
    cases s.issueId <;> rfl
  have hjoins : (s.statement aspect).joins.all Join.isWellFormed = true := by
    show (joinVersions :: (if s.pins.isSome then [joinPairs] else [])).all _ = true
    cases s.pins.isSome <;> decide
  rw [Statement.isWellFormed, hconditions, hjoins]
  show (true && (projection aspect).isWellFormed && Source.isNamed ⟨designsTable, none⟩ && true
    && true && (order aspect).all fun o => o.column.isNamed) = true
  rw [hprojection, horder]
  decide

/-- The relation of requested pins is well-formed, unless no requested pin is left. -/
theorem isWellFormed_pairs {pins : List Pin} (h : pins ≠ []) :
    (pairs pins).isWellFormed = true := by
  have hrows : (pairs pins).rows.isWellFormed = true := by
    simp [pairs, Inline.isWellFormed, h]
  rw [With.isWellFormed, hrows]
  show (isName pairsRelation && !List.isEmpty ["design_id", "version_id"]
    && List.all ["design_id", "version_id"] isName && true) = true
  decide

/-- The statement of a selection can be read from its text, unless no requested pin is left.  Then
its inline relation would have no rows, which is not SQL. -/
theorem isWellFormed_statement {s : Selection} (h : s.matchesNothing = false) (aspect : Aspect) :
    (s.statement aspect).isWellFormed = true := by
  have hcommon : (s.statement aspect).common.all With.isWellFormed = true := by
    show (s.pins.map pairs).all _ = true
    cases hpins : s.pins with
    | none => rfl
    | some pins =>
      refine isWellFormed_pairs fun hnil => ?_
      rw [matchesNothing, hpins, hnil] at h
      cases h
  have hrest := s.isWellFormed_withoutPairs aspect
  rw [Statement.isWellFormed, Option.all_none, Bool.true_and] at hrest
  simp only [Statement.isWellFormed, hcommon, Bool.true_and]
  exact hrest

end Selection

end DesignHistory
