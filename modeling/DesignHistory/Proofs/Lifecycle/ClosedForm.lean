import DesignHistory.Lifecycle

/-!
# Stages without a history

The stage of a design is found by going through its events in order.  Which stage comes
out does not depend on the order: it is deleted if it was ever deleted, in sight if
anything else happened to it, and nothing is said of it otherwise.

## Main definitions

* `Lifecycle.happened`: something happened to a design up to a version.
* `Lifecycle.ended`: a design was deleted up to a version.

## Main statements

* `Lifecycle.foldl_apply`: the stage after a list of events.
* `Lifecycle.get?_statesAt`: the stage of a design as of a version.
* `Lifecycle.mem_visibleAt_iff`: the designs in sight as of a version.
* `Lifecycle.statesAt_of_perm`: the stages do not depend on the order of the actions.
* `snapshot_of_perm`: a snapshot in whatever order the records come.
-/

namespace DesignHistory

namespace Lifecycle

/-! ### One design -/

/-- The stage after a list of events: a deletion is final, and anything else makes a design visible.
In this form the order of the events is gone. -/
theorem foldl_apply (events : List Event) (l : Lifecycle) :
    events.foldl apply l
      = if l = .deleted ∨ .deletion ∈ events then .deleted
        else if events = [] then l else .visible := by
  induction events generalizing l with
  | nil => cases l <;> rfl
  | cons e rest ih =>
    rw [List.foldl_cons, ih]
    cases l with
    | deleted => simp
    | notYetCreated =>
      cases e <;> cases hrest : rest <;> simp [apply]
    | visible =>
      cases e <;> cases hrest : rest <;> simp [apply]

/-- The events of a design among actions. -/
def eventsOf (id : DesignId) (actions : List Action) : List Event :=
  (actions.filter fun a => a.designId == id).map fun a => a.event

theorem mem_eventsOf {id : DesignId} {actions : List Action} {e : Event} :
    e ∈ eventsOf id actions ↔ ∃ a ∈ actions, a.designId = id ∧ a.event = e := by
  simp only [eventsOf, List.mem_map, List.mem_filter, beq_iff_eq, and_assoc]

/-- Going through actions changes the stage of a design by its own events.  The other designs do not
come in, so that every design can be looked at on its own. -/
theorem get?_foldl_advance (actions : List Action) (states : SortedMap DesignId Lifecycle)
    (id : DesignId) :
    (actions.foldl advance states).get? id
      = if eventsOf id actions = [] then states.get? id
        else some ((eventsOf id actions).foldl apply
          ((states.get? id).getD .notYetCreated)) := by
  induction actions generalizing states with
  | nil => rfl
  | cons a rest ih =>
    rw [List.foldl_cons, ih, advance, SortedMap.get?_insert]
    -- an action on another design changes neither the events nor the entry of this one
    by_cases ha : a.designId = id
    · have hevents : eventsOf id (a :: rest) = a.event :: eventsOf id rest := by
        simp [eventsOf, ha]
      rw [if_pos ha.symm, hevents, ha, if_neg (List.cons_ne_nil _ _), List.foldl_cons]
      split
      · rename_i hrest
        rw [hrest]
        rfl
      · rfl
    · have hevents : eventsOf id (a :: rest) = eventsOf id rest := by
        simp [eventsOf, ha]
      rw [if_neg (Ne.symm ha), hevents]

/-! ### All designs -/

/-- Something happened to a design up to a version. -/
def happened (actions : List Action) (versionId : VersionId) (id : DesignId) : Bool :=
  actions.any fun a => a.designId == id && decide (a.versionId ≤ versionId)

/-- A design was deleted up to a version. -/
def ended (actions : List Action) (versionId : VersionId) (id : DesignId) : Bool :=
  actions.any fun a =>
    a.designId == id && decide (a.versionId ≤ versionId) && a.event == .deletion

/-- Something happened to a design if there is an action on it. -/
theorem happened_iff {actions : List Action} {versionId : VersionId} {id : DesignId} :
    happened actions versionId id = true ↔
      ∃ a ∈ actions, a.designId = id ∧ a.versionId ≤ versionId := by
  rw [happened, List.any_eq_true]
  simp only [Bool.and_eq_true, beq_iff_eq, decide_eq_true_eq]

/-- A design was deleted if there is a deletion of it. -/
theorem ended_iff {actions : List Action} {versionId : VersionId} {id : DesignId} :
    ended actions versionId id = true ↔
      ∃ a ∈ actions, a.designId = id ∧ a.versionId ≤ versionId ∧ a.event = .deletion := by
  rw [ended, List.any_eq_true]
  simp only [Bool.and_eq_true, beq_iff_eq, decide_eq_true_eq, and_assoc]

/-- The events that count for a design as of a version. -/
theorem mem_eventsOf_relevant {actions : List Action} {versionId : VersionId} {id : DesignId}
    {e : Event} :
    e ∈ eventsOf id (relevant actions versionId) ↔
      ∃ a ∈ actions, a.designId = id ∧ a.versionId ≤ versionId ∧ a.event = e := by
  rw [mem_eventsOf]
  simp only [relevant, (sortOn_perm _ _).mem_iff, List.mem_filter, decide_eq_true_eq, and_assoc]
  exact exists_congr fun a => and_congr_right fun _ => and_left_comm

/-- Some event counts for a design if something happened to it. -/
theorem eventsOf_relevant_ne_nil {actions : List Action} {versionId : VersionId}
    {id : DesignId} :
    eventsOf id (relevant actions versionId) ≠ [] ↔ happened actions versionId id = true := by
  rw [happened_iff]
  constructor
  · intro h
    obtain ⟨e, he⟩ := List.exists_mem_of_ne_nil _ h
    obtain ⟨a, ha, hid, hle, -⟩ := mem_eventsOf_relevant.1 he
    exact ⟨a, ha, hid, hle⟩
  · rintro ⟨a, ha, hid, hle⟩
    exact List.ne_nil_of_mem (mem_eventsOf_relevant.2 ⟨a, ha, hid, hle, rfl⟩)

theorem deletion_mem_eventsOf_relevant {actions : List Action} {versionId : VersionId}
    {id : DesignId} :
    .deletion ∈ eventsOf id (relevant actions versionId)
      ↔ ended actions versionId id = true := by
  rw [mem_eventsOf_relevant, ended_iff]

/-- **The stage of a design as of a version**, whatever the order of the actions.  The fold over the
actions is replaced by two tests, of which each is a search. -/
theorem get?_statesAt (actions : List Action) (versionId : VersionId) (id : DesignId) :
    (statesAt actions versionId).get? id
      = if happened actions versionId id then
          some (if ended actions versionId id then .deleted else .visible)
        else none := by
  rw [statesAt, get?_foldl_advance]
  by_cases hnone : eventsOf id (relevant actions versionId) = []
  · have hnot : ¬happened actions versionId id = true := fun h =>
      eventsOf_relevant_ne_nil.2 h hnone
    rw [if_pos hnone, if_neg hnot]
    rfl
  · have hsome := eventsOf_relevant_ne_nil.1 hnone
    have hstart : ((SortedMap.empty.get? id : Option Lifecycle).getD .notYetCreated)
        = .notYetCreated := rfl
    rw [if_neg hnone, if_pos hsome, foldl_apply, if_neg hnone, hstart]
    simp only [deletion_mem_eventsOf_relevant, reduceCtorEq, false_or]

/-- A design is in sight as of a version if this is the stage found for it. -/
theorem mem_visibleAt_iff_get? {actions : List Action} {versionId : VersionId}
    {id : DesignId} :
    id ∈ visibleAt actions versionId ↔ (statesAt actions versionId).get? id = some .visible := by
  unfold visibleAt
  rw [List.mem_map]
  constructor
  · rintro ⟨⟨id, l⟩, hmem, rfl⟩
    obtain ⟨hmem, hl⟩ := List.mem_filter.1 hmem
    cases l with
    | visible => exact SortedMap.mem_entries_iff.1 hmem
    | notYetCreated => cases hl
    | deleted => cases hl
  · intro h
    exact ⟨(id, .visible), List.mem_filter.2 ⟨SortedMap.mem_entries_iff.2 h, rfl⟩, rfl⟩

/-- A design is in sight as of a version if something happened to it and it was not
deleted. -/
theorem mem_visibleAt_iff {actions : List Action} {versionId : VersionId} {id : DesignId} :
    id ∈ visibleAt actions versionId ↔
      happened actions versionId id = true ∧ ended actions versionId id = false := by
  rw [mem_visibleAt_iff_get?, get?_statesAt]
  cases happened actions versionId id <;> cases ended actions versionId id <;> simp

/-- The stages do not depend on the order of the actions. -/
theorem statesAt_of_perm {actions actions' : List Action} (h : actions.Perm actions')
    (versionId : VersionId) : statesAt actions' versionId = statesAt actions versionId := by
  refine SortedMap.ext_get? fun id => ?_
  have hhappened : happened actions versionId id = happened actions' versionId id := h.any_eq
  have hended : ended actions versionId id = ended actions' versionId id := h.any_eq
  rw [get?_statesAt, get?_statesAt, hhappened, hended]

end Lifecycle

/-- A snapshot does not depend on the order of the designs and of the actions, if the designs have
different ids.  With two designs of one id the order would decide which one comes first. -/
theorem snapshot_of_perm {designs designs' : List Design} {actions actions' : List Action}
    (hdesigns : designs.Perm designs')
    (hsorted : designs'.Pairwise fun d e => KeyOrder.before d.id e.id = true)
    (hactions : actions.Perm actions') (v : Version) (filter : DesignFilter) :
    snapshot v designs actions filter = snapshot v designs' actions' filter := by
  unfold snapshot Lifecycle.visibleAt
  rw [Lifecycle.statesAt_of_perm hactions]
  rw [sortOn_eq_of_perm (hdesigns.filter _) (hsorted.filter _),
    sortOn_eq_of_perm (List.Perm.refl _) (hsorted.filter _)]

end DesignHistory
