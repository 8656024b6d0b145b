import DesignHistory.Lookup
import DesignHistory.SortedList
import DesignHistory.SortedMap
import DesignHistory.Version

/-!
# The life of a design

Where a design stands as of a version follows from the actions recorded up to
that version: it comes into sight with its first event and is gone for good with
a deletion.

## Main definitions

* `Lifecycle`: the three stages, and `Lifecycle.apply`, what one event does.
* `Lifecycle.relevant`: the actions up to a version in the order of the versions.
* `Lifecycle.statesAt`: the stage of every design that was acted on.
* `snapshot`: the designs of an issue that are in sight as of a version.

## Main statements

* `Lifecycle.apply_deleted`: a deletion is final.
-/

namespace DesignHistory

/-- Where a design stands on the timeline of versions.  A stage is stored nowhere; it is computed
from the actions up to a version whenever it is needed. -/
inductive Lifecycle where
  | notYetCreated
  | visible
  | deleted
deriving DecidableEq, Repr

namespace Lifecycle

/-- **What one event does to the stage of a design.** A deletion is final, and anything else makes a
design visible that is not deleted.  Events that do not go together, such as a modification before
the creation, are not refused. -/
def apply : Lifecycle → Event → Lifecycle
  | .deleted, _ => .deleted
  | _, .deletion => .deleted
  | _, _ => .visible

/-- A deletion is final. -/
@[simp]
theorem apply_deleted (e : Event) : apply .deleted e = .deleted := rfl

/-- The stages of a design after each of several events. -/
def course (l : Lifecycle) : List Event → List Lifecycle
  | [] => []
  | e :: rest => l.apply e :: course (l.apply e) rest

/-- Whether a design is in sight. -/
def isVisible : Lifecycle → Bool
  | .visible => true
  | _ => false

/-- The actions recorded at or before a version, by version and then by design.  The sort is stable:
actions of one version on one design stay in the order in which they were recorded. -/
def relevant (actions : List Action) (versionId : VersionId) : List Action :=
  sortOn (fun a => (a.versionId, a.designId)) (actions.filter fun a => a.versionId ≤ versionId)

/-- One action worked into the stages of all designs. -/
def advance (states : SortedMap DesignId Lifecycle) (a : Action) : SortedMap DesignId Lifecycle :=
  states.insert a.designId (((states.get? a.designId).getD .notYetCreated).apply a.event)

/-- **The stage of every design that was acted on at or before a version.** A design without an
entry is not yet created as of the version.  The actions are taken in the order of the versions,
whatever the order in which they are given. -/
def statesAt (actions : List Action) (versionId : VersionId) : SortedMap DesignId Lifecycle :=
  (relevant actions versionId).foldl advance .empty

/-- The designs in sight as of a version, by id. -/
def visibleAt (actions : List Action) (versionId : VersionId) : List DesignId :=
  ((statesAt actions versionId).entries.filter fun e => e.2.isVisible).map Prod.fst

end Lifecycle

/-- **The designs in sight as of a version.** They are the designs of the version's issue that are
visible as of it and pass the filter, by id.  Of the version only the id and the issue count, so
that it need not be stored. -/
def snapshot (v : Version) (designs : List Design) (actions : List Action)
    (filter : DesignFilter) : List Design :=
  let visible := Lifecycle.visibleAt actions v.id
  sortOn (fun d => d.id) <| designs.filter fun d =>
    d.issueId == v.issueId && visible.contains d.id && filter.accepts d.id d.filename

end DesignHistory
