import DesignHistory.Resolution

/-!
# Designs by reference

The designs that a set of references points at, fetched with one query, and found
again by project, issue and filename or by issue and filename alone.

## Main definitions

* `ReferenceIndex`: designs under their full keys, and the full key of each
  reference.
* `ReferenceIndex.ofDesigns`: the index of a list of designs; of designs with one
  key the last one counts.
* `ReferenceIndex.link`: the table from references to full keys.
* `ReferenceIndex.resolve`: the index of what references point at.
-/

namespace DesignHistory

namespace ReferenceIndex

/-- What tells a design from all others: project, issue and filename. -/
abbrev Key := ProjectId × IssueId × String

/-- The key of a design. -/
def keyOf (d : Design) : Key := (d.projectId, d.issueId, d.filename)

/-- The reference that a key answers. -/
def referenceOf (key : Key) : DesignReference := ⟨key.2.1, key.2.2⟩

/-- From references to keys.  Keys of different projects can answer one reference, and then the last
one of them counts. -/
def link (keys : List Key) : SortedMap DesignReference Key :=
  .ofList (keys.map fun key => (referenceOf key, key))

end ReferenceIndex

/-- **Designs under their keys, and the key of each reference.** A key is a project, an issue and a
filename, so that of designs with one key only one is kept.  A search by reference goes through
`byReference` and then finds what a search by that key does. -/
structure ReferenceIndex where
  designs : SortedMap ReferenceIndex.Key Design := .empty
  byReference : SortedMap DesignReference ReferenceIndex.Key := .empty

namespace ReferenceIndex

/-- The index of a list of designs. -/
def ofDesigns (designs : List Design) : ReferenceIndex :=
  let byKey : SortedMap Key Design := .ofList (designs.map fun d => (keyOf d, d))
  ⟨byKey, link byKey.keys⟩

/-- The design with a project, an issue and a filename. -/
def get? (ix : ReferenceIndex) (projectId : ProjectId) (issueId : IssueId)
    (filename : String) : Option Design :=
  ix.designs.get? (projectId, issueId, filename)

/-- The design that a reference points at. -/
def find? (ix : ReferenceIndex) (r : DesignReference) : Option Design :=
  (ix.byReference.get? r).bind ix.designs.get?

/-- The number of designs. -/
def size (ix : ReferenceIndex) : Nat := ix.designs.size

/-- Whether there is no design. -/
def isEmpty (ix : ReferenceIndex) : Bool := ix.designs.isEmpty

/-- The index of the designs that references point at.  Repeated references are dropped before the
store is asked, and without a reference it is not asked at all. -/
def resolve (references : List DesignReference) : Inquiry ReferenceIndex :=
  (Resolution.designsByReference (distinct references)).map ofDesigns

end ReferenceIndex

end DesignHistory
