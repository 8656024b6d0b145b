import DesignHistory.Inquiry

/-!
# Events by version

What a version did to each of its designs, kept for one unit of work.  The first
question about a version loads all of its actions with one query, and later ones
are answered from memory; a failed load leaves nothing behind.

## Main definitions

* `Tables.eventsOfVersion`: the last event a version recorded for each design.
* `EventCache`: the events of the versions loaded so far.
* `EventCache.eventsFor`: loads a version at most once.
-/

namespace DesignHistory

/-- The event of each design that a version acted on.  A version may act on a design several times;
here the last action on record counts, where `Resolution.eventAt` takes the first one. -/
def Tables.eventsOfVersion (t : Tables) (versionId : VersionId) : SortedMap DesignId Event :=
  .ofList ((t.actionsOfVersion versionId).map fun a => (a.designId, a.event))

/-- **The events of the versions loaded so far.** Nothing is ever taken out again: the actions of a
version are fixed by its commit, so that what was loaded once stays right. -/
structure EventCache where
  byVersion : SortedMap VersionId (SortedMap DesignId Event) := .empty

namespace EventCache

/-- The number of versions loaded. -/
def size (c : EventCache) : Nat := c.byVersion.size

/-- What a look-up in the cache leaves behind: the result, and the cache and the store after it. -/
structure Answered where
  result : Except StoreError (SortedMap DesignId Event)
  cache : EventCache
  store : Store

/-- The events of a version, loaded with one query if they are not at hand.  Only a result is kept,
so that a version whose query failed is asked for again; a version that acted on nothing is kept
like any other. -/
def eventsFor (c : EventCache) (v : Version) (s : Store) : Answered :=
  match c.byVersion.get? v.id with
  | some events => { result := .ok events, cache := c, store := s }
  | none =>
    match s.query fun t => t.eventsOfVersion v.id with
    | (.ok events, store) =>
      { result := .ok events, cache := ⟨c.byVersion.insert v.id events⟩, store }
    | (.error e, store) => { result := .error e, cache := c, store }

/-- The store after a look-up is as it was, or as one query leaves it. -/
theorem store_eventsFor (c : EventCache) (v : Version) (s : Store) :
    (c.eventsFor v s).store = s
      ∨ (c.eventsFor v s).store = (s.query fun t => t.eventsOfVersion v.id).2 := by
  unfold eventsFor
  split
  · exact .inl rfl
  · right
    split <;> rename_i h <;> rw [h]

end EventCache

end DesignHistory
