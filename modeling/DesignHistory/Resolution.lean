import DesignHistory.Inquiry

/-!
# Resolving identities and lookups

From identities, designs and versions to pinned designs.  Something that does
not exist is an empty result and not an error; errors are for lookups that do not
say what they mean and for a store that cannot answer.

## Main definitions

* `Selection.count`, `Selection.isEmpty`, `Selection.records`: the result of a
  selection.  One without any requested pin left is answered without a query.
* `Resolution.byIdentity`, `Resolution.byIdentityInIssue`, `Resolution.byIdentities`: from
  texts; a malformed text resolves to nothing.
* `Resolution.allForVersion`, `Resolution.oneForVersion`: the designs in sight as of
  a version, all of them or the one a lookup means.
* `Resolution.eventAt`, `Resolution.changedDesigns`: what a version did.
* `Resolution.design`, `Resolution.versions`, `Resolution.versionBySha`: within an issue.
-/

namespace DesignHistory

namespace Selection

/-- The number of selected pairs. -/
def count (s : Selection) : Inquiry Nat :=
  if s.matchesNothing then .settled (.ok 0) else .asks fun t => (t.select s).length

/-- Whether no pair is selected. -/
def isEmpty (s : Selection) : Inquiry Bool := s.count.map (· == 0)

/-- The selected pairs.  Once no requested pin is left the list is known to be empty, and no query
is made. -/
def records (s : Selection) : Inquiry (List PinnedDesign) :=
  if s.matchesNothing then .settled (.ok []) else .asks fun t => t.select s

theorem count_eq_map_records (s : Selection) : s.count = s.records.map List.length := by
  unfold count records
  split <;> rfl

theorem isEmpty_eq_map_records (s : Selection) : s.isEmpty = s.records.map List.isEmpty := by
  rw [isEmpty, count_eq_map_records, Inquiry.map_map]
  congr 1
  funext records
  cases records <;> rfl

end Selection

/-- The record of a pin, the last one of that name. -/
def PinnedDesign.lookup (pin : Pin) (records : List PinnedDesign) : Option PinnedDesign :=
  records.reverse.find? fun p => p.pin == pin

namespace Resolution

/-! ### By identity -/

/-- The pinned design that a text names.  A malformed text names none: it is answered without a
query, and it is no error. -/
def byIdentity (identity : String) : Inquiry (Option PinnedDesign) :=
  match Pin.decode? identity with
  | some pin => (Selection.all.forPins [pin]).records.map List.head?
  | none => .settled (.ok none)

/-- The pinned design that a text names, if it is of the issue.  The issue is part of what is asked,
and not a filter on the answer. -/
def byIdentityInIssue (issueId : IssueId) (identity : String) : Inquiry (Option PinnedDesign) :=
  match Pin.decode? identity with
  | some pin => ((Selection.all.forPins [pin]).forIssue issueId).records.map List.head?
  | none => .settled (.ok none)

/-- **What each of several texts names**, with one query for all of them.  There is a place for each
text, in their order; a malformed text and one that names nothing have an empty one, and repeated
texts have one each. -/
def byIdentities (identities : List String) : Inquiry (List (Option PinnedDesign)) :=
  let decoded := identities.map Pin.decode?
  (Selection.all.forPins (decoded.filterMap fun pin => pin)).records.map fun records =>
    decoded.map fun pin => pin.bind fun pin => PinnedDesign.lookup pin records

/-! ### By version -/

/-- Pairs a design and a version in hand; no query is made. -/
def pair (design : Design) (version : Version) : Inquiry PinnedDesign :=
  .settled ((PinnedDesign.ofPair design version).mapError .mismatch)

/-- What the version of a pinned design did to its design, by the first action on record. -/
def eventAt (p : PinnedDesign) : Inquiry (Option Event) :=
  .asks fun t =>
    ((t.actionsOfVersion p.version.id).find? fun a => a.designId == p.design.id).map
      fun a => a.event

/-- The designs that a version created, modified or deleted, by id. -/
def changedDesigns (version : Version) : Inquiry (List Design) :=
  .asks fun t => t.changedDesigns version

/-- All designs in sight as of a version that pass a filter, by id, each pinned to the version. -/
def allForVersion (version : Version) (filter : DesignFilter) : Inquiry (List PinnedDesign) :=
  .asks fun t => (t.visibleDesigns version filter).map fun d => .of d version

/-- The one design as of a version that a lookup means.  An identity has to name
this version, and a design of its issue; the other keys find only designs that
are in sight. -/
def oneForVersion (version : Version) (lookup : PinLookup) : Inquiry (Option PinnedDesign) :=
  match lookup.key with
  | .error e => .settled (.error (.lookup e))
  | .ok (.identity identity) =>
    match Pin.decode? identity with
    | none => .settled (.ok none)
    | some pin =>
      if pin.versionId = version.id then
        ((Selection.all.forPins [pin]).forIssue version.issueId).records.map List.head?
      else .settled (.ok none)
  | .ok (.design key) => (allForVersion version key.filter).map List.head?

/-! ### Within an issue -/

/-- The one design of an issue that a lookup means.  A lookup without exactly one key is refused
before the store is asked. -/
def design (issueId : IssueId) (lookup : DesignLookup) : Inquiry (Option Design) :=
  match lookup.key with
  | .error e => .settled (.error (.lookup e))
  | .ok (.ofId id) => .asks fun t => t.findDesign issueId id
  | .ok (.ofFilename filename) => .asks fun t => t.findDesignByFilename issueId filename

/-- The designs that references point at; no reference, no query. -/
def designsByReference (references : List DesignReference) : Inquiry (List Design) :=
  if references.isEmpty then .settled (.ok [])
  else .asks fun t => t.findDesignsByReference references

/-- The versions of an issue, newest first, only those up to a limit if one is
given. -/
def versions (issueId : IssueId) (limit : Option Version) : Inquiry (List Version) :=
  .asks fun t =>
    match limit with
    | some limit => (t.versionsOfIssue issueId).filter fun v => v.isAtOrBefore limit
    | none => t.versionsOfIssue issueId

/-- The version of an issue with a `sha`. -/
def versionBySha (issueId : IssueId) (sha : String) : Inquiry (Option Version) :=
  .asks fun t => t.findVersionBySha issueId sha

end Resolution

end DesignHistory
