import DesignHistory.Proofs.Store.Records

/-!
# The records of a session

Three steps create something, and each answers with what it created.  The answers of a run, taken
together, are all that its store holds afterwards, whatever else happened in between: which records
there are, under which ids, with which actions, and how the issues of a project are numbered.

## Main definitions

* `Session.created?`: the record that a step answers with as created.
* `Session.created`: the records that a run creates, in order.

## Main statements

* `Session.created?_eq`: what a step creates is what it writes.
* `Session.represents_after`: the store of a session holds the records that were created.
* `Session.records_in_order`: what holds of the records of every session.
-/

namespace DesignHistory.Session

variable {s : Session} {step : Step} {steps : List Step} {records : List Record}

/-! ### Creation -/

/-- The record that a step answers with as created, if it creates one.  It is read from the outcome,
so that a step that is refused creates nothing. -/
def created? (s : Session) (step : Step) : Option Record :=
  match step, (s.step step).1 with
  | .insertIssue .., .answer (.issue (some i)) => some (.issue i)
  | .insertDesign .., .answer (.design (some d)) => some (.design d)
  | .commitVersion _ events _, .answer (.version (some v)) => some (.version v events)
  | _, _ => none

/-- The records that a run creates, in order. -/
def created (s : Session) : List Step → List Record
  | [] => []
  | step :: rest => (s.created? step).toList ++ (s.step step).2.created rest

/-- What a step answers with as created is what it writes. -/
theorem created?_eq (s : Session) (step : Step) :
    s.created? step = (s.write? step).map s.store.record := by
  cases step with
  | insertIssue projectId title => rfl
  | insertDesign given filename =>
    cases hissue : s.issue? given <;> simp [created?, Session.step, write?, hissue, Store.record]
  | commitVersion given events createdAt =>
    cases hissue : s.issue? given <;> simp [created?, Session.step, write?, hissue, Store.record]
  | _ => rfl

theorem created_append (first second : List Step) :
    s.created (first ++ second) = s.created first ++ (s.run first).2.created second := by
  induction first generalizing s with
  | nil => rfl
  | cons step rest ih => rw [List.cons_append, created, ih, created, List.append_assoc, run_cons]

/-- A run creates no more records than it has steps that write. -/
theorem length_created_le (s : Session) (steps : List Step) :
    (s.created steps).length ≤ steps.countP Step.isFixture := by
  induction steps generalizing s with
  | nil => exact Nat.le_refl 0
  | cons step rest ih =>
    have hrest := ih (s.step step).2
    rw [created, List.length_append, created?_eq, List.countP_cons]
    cases hw : s.write? step with
    | none =>
      rw [Option.map_none, Option.toList_none, List.length_nil]
      omega
    | some w =>
      rw [Option.map_some, Option.toList_some, List.length_singleton,
        if_pos (isFixture_of_write? (by rw [hw]; rfl))]
      omega

/-! ### What a session holds -/

/-- A step adds to the records the one that it creates. -/
theorem represents_step (hid : s.FindsId step) (hs : s.store.Bounded)
    (h : s.store.Represents records) :
    (s.step step).2.store.Represents (records ++ (s.created? step).toList) := by
  refine Store.Represents.congr ?_ (s.tables_step step) (s.lastId_step step)
  rw [created?_eq]
  cases hw : s.write? step with
  | none =>
    rw [written_of_none hw, Option.map_none, Option.toList_none, List.append_nil]
    exact h
  | some w =>
    rw [written_of_some hw]
    exact Store.represents_write hs (hid (by rw [hw]; rfl)) h w

/-- A run adds to the records those that it creates. -/
theorem represents_run (hids : Along FindsId s steps) (hs : s.store.Bounded)
    (h : s.store.Represents records) :
    (s.run steps).2.store.Represents (records ++ s.created steps) := by
  induction steps generalizing s records with
  | nil =>
    rw [created, List.append_nil]
    exact h
  | cons step rest ih =>
    obtain ⟨hid, hrest⟩ := hids
    rw [created, ← List.append_assoc]
    exact ih hrest (bounded_step hid hs) (represents_step hid hs h)

/-- The store of a session holds what was created.  The store is compared with a plain list of
records, which has no ids to look up. -/
theorem represents_after (hids : IdsSuffice steps) :
    (after steps).store.Represents (empty.created steps) :=
  represents_run hids bounded_empty Store.represents_empty

theorem write?_of_not_isFixture (h : step.isFixture = false) : s.write? step = none := by
  cases hw : s.write? step with
  | none => rfl
  | some w =>
    rw [isFixture_of_write? (s := s) (by rw [hw]; rfl)] at h
    cases h

/-- **The store has the records in the order of their creation.** In every session with fewer
fixtures than there are ids, the ids in the three tables are all different, lie between one and the
last one given out, and increase in the order of creation.  Each table has the records of its kind
that were created, in this order and under their own ids.  Every action was recorded by a stored
version, and those of a version are what it was committed with.  The issues of a project are
numbered from one in the order of creation, so a project and a number name one issue.  A step that
is no fixture changes none of this. -/
theorem records_in_order
    (hfew : steps.countP Step.isFixture < Int64.maxValue.toNatClampNeg) :
    (after steps).store.tables.ids.Nodup
      ∧ (∀ id ∈ (after steps).store.tables.ids, 1 ≤ id ∧ id ≤ (after steps).store.lastId)
      ∧ ((empty.created steps).map Record.id).Pairwise (· < ·)
      ∧ (after steps).store.tables.issues.values = (empty.created steps).filterMap Record.issue?
      ∧ (after steps).store.tables.designs.values = (empty.created steps).filterMap Record.design?
      ∧ (after steps).store.tables.versions.values
        = (empty.created steps).filterMap Record.version?
      ∧ (after steps).store.tables.Keyed
      ∧ (∀ a ∈ (after steps).store.tables.actions,
        ∃ v, (after steps).store.tables.versions.get? a.versionId = some v)
      ∧ (∀ v events, .version v events ∈ empty.created steps →
        (after steps).store.tables.actions.filter (fun a => a.versionId == v.id)
          = events.map fun e => ⟨e.1, v.id, e.2⟩)
      ∧ (∀ projectId, ((after steps).store.issuesOfProject projectId).map Issue.iid
        = firstIds ((after steps).store.issuesOfProject projectId).length)
      ∧ (∀ i ∈ (after steps).store.tables.issues.values,
        ∀ j ∈ (after steps).store.tables.issues.values,
          i.projectId = j.projectId → i.iid = j.iid → i = j)
      ∧ ∀ step, step.isFixture = false →
        ((after steps).step step).2.store.tables = (after steps).store.tables
          ∧ ((after steps).step step).2.store.lastId = (after steps).store.lastId := by
  have hids : IdsSuffice steps := idsSuffice_of_countP (Nat.le_of_lt hfew)
  have h := represents_after hids
  have hkeyed := keyed_after steps
  have hn : (empty.created steps).length < 2 ^ 63 :=
    Nat.lt_of_le_of_lt (length_created_le empty steps) (Nat.lt_trans hfew (by decide))
  have hperm := h.perm_ids hkeyed
  refine ⟨?_, fun id hid => ?_, h.pairwise_ids hn, h.issues, h.designs, h.versions, hkeyed,
    fun a ha => h.exists_version hkeyed ha, fun v events hv => h.filter_actions hn hv, h.iids,
    fun i hi j hj => h.eq_of_iid_eq hn hi hj, fun step hstep => ?_⟩
  · exact hperm.nodup_iff.2 ((pairwise_firstIds hn).imp Int64.ne_of_lt)
  · rw [h.lastId]
    exact bounds_of_mem_firstIds hn (hperm.mem_iff.1 hid)
  · have hwritten := written_of_none (write?_of_not_isFixture (s := after steps) hstep)
    rw [tables_step, lastId_step, hwritten]
    exact ⟨rfl, rfl⟩

/-- Issues of two projects in turn, a design and a version of an issue that is not stored, a
question, and a version that acts on that design, too. -/
def acrossProjects : List Step :=
  [.insertIssue 7 "a", .insertIssue 8 "b", .insertIssue 7 "c",
    .insertDesign (.literal ⟨90, 7, 1, "d"⟩) "x",
    .commitVersion (.literal ⟨90, 7, 1, "d"⟩) [(4, .creation), (55, .deletion), (4, .deletion)]
      default,
    .ask (.designsOfIssue 90), .commitVersion (.stored 3) [(4, .modification)] default]

/-- The first version has what it was committed with, in that order; the issues of the first
project are numbered without regard to the other project; and one more question leaves all as
it is. -/
theorem records_in_order_acrossProjects :
    (after acrossProjects).store.tables.ids.Nodup
      ∧ (after acrossProjects).store.tables.actions.filter (fun a => a.versionId == 5)
        = [⟨4, 5, .creation⟩, ⟨55, 5, .deletion⟩, ⟨4, 5, .deletion⟩]
      ∧ ((after acrossProjects).store.issuesOfProject 7).map Issue.iid = [1, 2]
      ∧ ((after acrossProjects).step (.ask (.findVersion 5))).2.store.tables
        = (after acrossProjects).store.tables := by
  have hfew : acrossProjects.countP Step.isFixture < Int64.maxValue.toNatClampNeg := by decide
  obtain ⟨hnodup, -, -, -, -, -, -, -, hactions, hiids, -, hkept⟩ := records_in_order hfew
  exact ⟨hnodup, hactions _ _ (List.mem_of_getElem? (i := 4) rfl), hiids 7,
    (hkept (.ask (.findVersion 5)) rfl).1⟩

end DesignHistory.Session
