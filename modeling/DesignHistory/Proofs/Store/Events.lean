import DesignHistory.EventCache
import DesignHistory.Proofs.Lifecycle.ClosedForm
import DesignHistory.Proofs.Store.Chain

/-!
# What a version did to a design

A version can record several events for one design.  The store lists them in the order
in which they were given, and there are two ways to ask for one of them: a search in the
list of the version's actions stops at the first, and a table with one event for each
design keeps the last.

## Main definitions

* `Tables.eventsOn`: the events that a version recorded for a design, in order.

## Main statements

* `Tables.event_find?_actionsOfVersion`: the first one is found in the list.
* `Tables.get?_eventsOfVersion`: the last one is in the table.
* `Tables.mem_keys_eventsOfVersion`: the table has the designs that have an event.
* `Store.eventsOn_write`: the events of a version that is written.
-/

namespace DesignHistory

namespace Tables

variable {t t' : Tables}

/-- The events that a version recorded for a design, in the order in which they were given.  There
can be several, and two questions about them differ in which one they take. -/
def eventsOn (t : Tables) (versionId : VersionId) (designId : DesignId) : List Event :=
  Lifecycle.eventsOf designId (t.actions.filter fun a => a.versionId == versionId)

/-- A version recorded some event for a design if it has an action on it. -/
theorem eventsOn_ne_nil_iff {versionId : VersionId} {designId : DesignId} :
    t.eventsOn versionId designId ≠ []
      ↔ ∃ a ∈ t.actions, a.versionId = versionId ∧ a.designId = designId := by
  simp only [eventsOn, Lifecycle.eventsOf, ne_eq, List.map_eq_nil_iff, List.filter_eq_nil_iff,
    List.mem_filter, beq_iff_eq, not_forall, not_not]
  constructor
  · rintro ⟨a, ⟨ha, hv⟩, hd⟩
    exact ⟨a, ha, hv, hd⟩
  · rintro ⟨a, ha, hv, hd⟩
    exact ⟨a, ⟨ha, hv⟩, hd⟩

/-- The list of a version's actions by design has the events of each design in order. -/
theorem eventsOf_actionsOfVersion (t : Tables) (versionId : VersionId) (designId : DesignId) :
    Lifecycle.eventsOf designId (t.actionsOfVersion versionId)
      = t.eventsOn versionId designId := by
  rw [eventsOn, Lifecycle.eventsOf, actionsOfVersion, filter_sortOn]
  rfl

/-- The event that is found in the list of a version's actions is the first one.  Sorting the
actions by design keeps the order of those on one design. -/
theorem event_find?_actionsOfVersion (t : Tables) (versionId : VersionId)
    (designId : DesignId) :
    ((t.actionsOfVersion versionId).find? fun a => a.designId == designId).map
        (fun a => a.event)
      = (t.eventsOn versionId designId).head? := by
  rw [← eventsOf_actionsOfVersion, Lifecycle.eventsOf, List.head?_map, List.head?_filter]

/-- The event that is kept in the table of a version's events is the last one.  A later entry under
a key replaces an earlier one. -/
theorem get?_eventsOfVersion (t : Tables) (versionId : VersionId) (designId : DesignId) :
    (t.eventsOfVersion versionId).get? designId = (t.eventsOn versionId designId).getLast? := by
  rw [← eventsOf_actionsOfVersion, Lifecycle.eventsOf, eventsOfVersion, SortedMap.get?_ofList,
    List.filter_map, List.getLast?_map, List.getLast?_map, Option.map_map]
  rfl

/-- The designs in the table of a version's events are those for which it recorded some event. -/
theorem mem_keys_eventsOfVersion {versionId : VersionId} {designId : DesignId} :
    designId ∈ (t.eventsOfVersion versionId).keys ↔ t.eventsOn versionId designId ≠ [] := by
  rw [SortedMap.mem_keys_iff, get?_eventsOfVersion, List.getLast?_isSome]

theorem Continued.eventsOn_eq {bound : Int64} (h : t.Continued bound t') {id : VersionId}
    (hid : id ≤ bound) (designId : DesignId) :
    t'.eventsOn id designId = t.eventsOn id designId := by
  rw [← eventsOf_actionsOfVersion, ← eventsOf_actionsOfVersion, h.actionsOfVersion_eq hid]

end Tables

/-- The events that a version which is written records for a design are those given for
it, in the order in which they were given. -/
theorem Store.eventsOn_write {s : Store} (hs : s.Bounded) (hleft : s.lastId < Int64.maxValue)
    (issue : Issue) (events : List (DesignId × Event)) (createdAt : Instant)
    (designId : DesignId) :
    (s.write (.version issue events createdAt)).tables.eventsOn s.nextId designId
      = (events.filter fun e => e.1 == designId).map Prod.snd := by
  rw [Tables.eventsOn, filter_actions_write hs hleft, Lifecycle.eventsOf, List.filter_map,
    List.map_map]
  rfl

end DesignHistory
