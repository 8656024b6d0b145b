import DesignHistory.Proofs.Lifecycle.ClosedForm

/-!
# Stages over time

The stages of all designs as of a version depend on which actions there are up to it, and on
nothing else: the actions may be listed in any order, and an action that is listed twice, or
that contradicts another one, counts as it does anywhere else.  As time goes on the stage of a
design changes in one direction only.

## Main definitions

* `Lifecycle.stageAt`: the stage of a design as of a version, also before its first event.
* `Lifecycle.stageAfter`: the stage of a design after several versions.

## Main statements

* `Lifecycle.foldl_apply_of_mem_iff`: the order of several events on one design does not count.
* `Lifecycle.statesAt_closed_form`: the stages of all designs as of a version, and how they
  change with the version.
* `Lifecycle.stageAt_eq_foldl_stageAfter`: the stage of a design from one version to the next.
-/

namespace DesignHistory.Lifecycle

variable {actions : List Action} {versionId later : VersionId} {id : DesignId}

/-! ### What happened up to a version -/

theorem happened_of_ended (h : ended actions versionId id = true) :
    happened actions versionId id = true := by
  obtain ⟨a, ha, hid, hle, -⟩ := ended_iff.1 h
  exact happened_iff.2 ⟨a, ha, hid, hle⟩

theorem happened_of_le (hle : versionId ≤ later) (h : happened actions versionId id = true) :
    happened actions later id = true := by
  obtain ⟨a, ha, hid, ha'⟩ := happened_iff.1 h
  exact happened_iff.2 ⟨a, ha, hid, Int64.le_trans ha' hle⟩

theorem ended_of_le (hle : versionId ≤ later) (h : ended actions versionId id = true) :
    ended actions later id = true := by
  obtain ⟨a, ha, hid, ha', hevent⟩ := ended_iff.1 h
  exact ended_iff.2 ⟨a, ha, hid, Int64.le_trans ha' hle, hevent⟩

/-! ### The stages of all designs -/

theorem mem_keys_statesAt_iff :
    id ∈ (statesAt actions versionId).keys ↔ happened actions versionId id = true := by
  rw [SortedMap.mem_keys_iff, get?_statesAt]
  cases happened actions versionId id <;> simp

theorem get?_statesAt_eq_deleted_iff :
    (statesAt actions versionId).get? id = some .deleted ↔ ended actions versionId id = true := by
  rw [get?_statesAt]
  cases hended : ended actions versionId id with
  | true => simp [happened_of_ended hended]
  | false => simp

theorem get?_statesAt_eq_visible_iff :
    (statesAt actions versionId).get? id = some .visible ↔
      happened actions versionId id = true ∧ ended actions versionId id = false := by
  rw [← mem_visibleAt_iff_get?, mem_visibleAt_iff]

theorem get?_statesAt_ne_notYetCreated :
    (statesAt actions versionId).get? id ≠ some .notYetCreated := by
  rw [get?_statesAt]
  cases happened actions versionId id <;> cases ended actions versionId id <;> simp

/-- **The stages as of a version, without a fold.** Exactly the designs with an action up to it have
a stage: deleted if one of these actions is a deletion, and visible otherwise.  The stages are the
same in whatever order the actions are listed, what is deleted as of a version is deleted as of
every later one, and what is visible stays visible or is deleted. -/
theorem statesAt_closed_form (actions : List Action) (versionId : VersionId) :
    (∀ id, id ∈ (statesAt actions versionId).keys ↔
        ∃ a ∈ actions, a.designId = id ∧ a.versionId ≤ versionId)
      ∧ (∀ id, (statesAt actions versionId).get? id = some .deleted ↔
        ∃ a ∈ actions, a.designId = id ∧ a.versionId ≤ versionId ∧ a.event = .deletion)
      ∧ (∀ id, (statesAt actions versionId).get? id = some .visible ↔
        (∃ a ∈ actions, a.designId = id ∧ a.versionId ≤ versionId)
          ∧ ∀ a ∈ actions, a.designId = id → a.versionId ≤ versionId → a.event ≠ .deletion)
      ∧ (∀ id, (statesAt actions versionId).get? id ≠ some .notYetCreated)
      ∧ (∀ actions', actions.Perm actions' →
        statesAt actions' versionId = statesAt actions versionId)
      ∧ ∀ later, versionId ≤ later → ∀ id,
        ((statesAt actions versionId).get? id = some .deleted →
            (statesAt actions later).get? id = some .deleted)
          ∧ ((statesAt actions versionId).get? id = some .visible →
            (statesAt actions later).get? id = some .visible
              ∨ (statesAt actions later).get? id = some .deleted) := by
  refine ⟨fun id => ?_, fun id => ?_, fun id => ?_, fun id => get?_statesAt_ne_notYetCreated,
    fun actions' h => statesAt_of_perm h versionId, fun later hle id => ⟨fun h => ?_, fun h => ?_⟩⟩
  · rw [mem_keys_statesAt_iff, happened_iff]
  · rw [get?_statesAt_eq_deleted_iff, ended_iff]
  · rw [get?_statesAt_eq_visible_iff, happened_iff, ← Bool.not_eq_true, ended_iff]
    simp only [not_exists, not_and, ne_eq]
  · rw [get?_statesAt_eq_deleted_iff] at h ⊢
    exact ended_of_le hle h
  · rw [get?_statesAt_eq_visible_iff, get?_statesAt_eq_deleted_iff]
    have hhappened := happened_of_le hle (get?_statesAt_eq_visible_iff.1 h).1
    cases hended : ended actions later id with
    | true => exact .inr rfl
    | false => exact .inl ⟨hhappened, rfl⟩

/-- Actions out of order: a design that is deleted, modified and created in one version, and one
that is created twice, at the smallest and at the largest version id. -/
def contradicting : List Action :=
  [⟨-5, 7, .deletion⟩, ⟨8, Int64.maxValue, .creation⟩, ⟨-5, 7, .modification⟩,
    ⟨8, Int64.minValue, .creation⟩, ⟨-5, 7, .creation⟩]

/-- The deletion counts in whatever order the events are listed, and the design stays deleted;
the other one is visible at first and not deleted later. -/
theorem statesAt_closed_form_of_contradicting :
    (statesAt contradicting.reverse 7).get? (-5) = some .deleted
      ∧ (statesAt contradicting 8).get? (-5) = some .deleted
      ∧ (statesAt contradicting 7).get? 8 = some .visible
      ∧ (statesAt contradicting Int64.maxValue).get? 8 = some .visible := by
  obtain ⟨-, hdeleted, hvisible, -, hperm, hlater⟩ := statesAt_closed_form contradicting 7
  have hended : (statesAt contradicting 7).get? (-5) = some .deleted :=
    (hdeleted (-5)).2 (by decide)
  have hfirst : (statesAt contradicting 7).get? 8 = some .visible := (hvisible 8).2 (by decide)
  refine ⟨?_, (hlater 8 (by decide) (-5)).1 hended, hfirst, ?_⟩
  · rw [hperm _ (List.reverse_perm contradicting).symm]
    exact hended
  · refine ((hlater Int64.maxValue (by decide) 8).2 hfirst).resolve_right fun h => ?_
    have hnone := ((statesAt_closed_form contradicting Int64.maxValue).2.1 8).1 h
    exact absurd hnone (by decide)

/-! ### The stage of one design -/

/-- The stage of a design as of a version; one to which nothing happened is not yet created. -/
def stageAt (actions : List Action) (versionId : VersionId) (id : DesignId) : Lifecycle :=
  ((statesAt actions versionId).get? id).getD .notYetCreated

theorem mem_visibleAt_iff_stageAt :
    id ∈ visibleAt actions versionId ↔ stageAt actions versionId id = .visible := by
  rw [mem_visibleAt_iff_get?, stageAt]
  cases (statesAt actions versionId).get? id <;> simp

/-- The stage of a design is what its events up to the version make of it. -/
theorem stageAt_eq_foldl :
    stageAt actions versionId id
      = (eventsOf id (relevant actions versionId)).foldl apply .notYetCreated := by
  rw [stageAt, statesAt, get?_foldl_advance]
  split
  · rename_i hnone
    rw [hnone]
    rfl
  · rfl

/-- What events make of a stage depends on which events there are, and neither on their order nor on
how often one is repeated.  That is why a snapshot can be continued from the version before it. -/
theorem foldl_apply_of_mem_iff {events events' : List Event}
    (h : ∀ e, e ∈ events ↔ e ∈ events') (l : Lifecycle) :
    events.foldl apply l = events'.foldl apply l := by
  have hnil : events = [] ↔ events' = [] := by
    simp only [List.eq_nil_iff_forall_not_mem, h]
  simp only [foldl_apply, h, hnil]

/-- The stage of a design after versions, listed newest first: as of the newest one, or before the
first event if there is none.  It lets the first version of an issue be treated like every later
one. -/
def stageAfter (actions : List Action) (vs : List Version) (id : DesignId) : Lifecycle :=
  match vs with
  | [] => .notYetCreated
  | v :: _ => stageAt actions v.id id

/-- If every action on a design up to a version is the version's own or is up to the version before,
then the stage of the design as of the version is what the version's own events make of the stage
before.  The condition holds where versions are listed in a row and ids increase. -/
theorem stageAt_eq_foldl_stageAfter {v : Version} {older : List Version}
    (h : ∀ a ∈ actions, a.designId = id →
      (a.versionId ≤ v.id ↔ a.versionId = v.id ∨ ∃ p ∈ older.head?, a.versionId ≤ p.id)) :
    stageAt actions v.id id
      = (eventsOf id (actions.filter fun a => a.versionId == v.id)).foldl apply
        (stageAfter actions older id) := by
  have hown : ∀ e, e ∈ eventsOf id (actions.filter fun a => a.versionId == v.id) ↔
      ∃ a ∈ actions, a.designId = id ∧ a.versionId = v.id ∧ a.event = e := by
    intro e
    simp only [mem_eventsOf, List.mem_filter, beq_iff_eq, and_assoc]
    exact exists_congr fun a => and_congr_right fun _ => and_left_comm
  rw [stageAt_eq_foldl]
  cases older with
  | nil =>
    refine foldl_apply_of_mem_iff (fun e => ?_) _
    rw [mem_eventsOf_relevant, hown]
    refine exists_congr fun a => and_congr_right fun ha => and_congr_right fun hid => ?_
    rw [h a ha hid]
    simp
  | cons p rest =>
    rw [stageAfter, stageAt_eq_foldl, ← List.foldl_append]
    refine foldl_apply_of_mem_iff (fun e => ?_) _
    rw [List.mem_append, mem_eventsOf_relevant, mem_eventsOf_relevant, hown]
    constructor
    · rintro ⟨a, ha, hid, hle, he⟩
      rcases (h a ha hid).1 hle with heq | ⟨p', hp, hle'⟩
      · exact .inr ⟨a, ha, hid, heq, he⟩
      · obtain rfl := Option.some.inj hp
        exact .inl ⟨a, ha, hid, hle', he⟩
    · rintro (⟨a, ha, hid, hle, he⟩ | ⟨a, ha, hid, heq, he⟩)
      · exact ⟨a, ha, hid, (h a ha hid).2 (.inr ⟨p, rfl, hle⟩), he⟩
      · exact ⟨a, ha, hid, (h a ha hid).2 (.inl heq), he⟩

end DesignHistory.Lifecycle
