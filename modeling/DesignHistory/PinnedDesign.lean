import DesignHistory.Pin
import DesignHistory.Version

/-!
# Pinned designs

A design together with a version of the same issue, under the name that the ids of the two make.

## Main definitions

* `PinnedDesign`: the pair with its name.
* `PinnedDesign.of`, `PinnedDesign.ofPair`: the construction, and the checked one.
* `PinnedDesign.Consistent`: the two belong to one issue, and the name is theirs.
* `IssueMismatch`: why a pair is refused, with its message.
-/

namespace DesignHistory

/-- A design as of a version.  The name is a part of its own, which is written and compared without
a look at the other two.  That it has their ids is not part of the type, and neither is that they
belong together; both hold of whatever the program constructs, see `PinnedDesign.Consistent`. -/
structure PinnedDesign where
  pin : Pin
  design : Design
  version : Version
deriving DecidableEq, Repr

/-- A design and a version that belong to different issues.  Both ids and both issues are kept, so
that a message can name them. -/
structure IssueMismatch where
  designId : DesignId
  designIssueId : IssueId
  versionId : VersionId
  versionIssueId : IssueId
deriving DecidableEq, Repr

/-- The message about a refused pair. -/
def IssueMismatch.message (m : IssueMismatch) : String :=
  "design " ++ Decimal.ofInt64 m.designId ++ " (issue " ++ Decimal.ofInt64 m.designIssueId
    ++ ") and version " ++ Decimal.ofInt64 m.versionId ++ " (issue "
    ++ Decimal.ofInt64 m.versionIssueId ++ ") belong to different issues"

namespace PinnedDesign

/-- A design as of a version, for a pair that is known to belong together. -/
def of (design : Design) (version : Version) : PinnedDesign :=
  ⟨⟨design.id, version.id⟩, design, version⟩

@[simp]
theorem of_pin (design : Design) (version : Version) :
    (of design version).pin = ⟨design.id, version.id⟩ := rfl

@[simp]
theorem of_design (design : Design) (version : Version) : (of design version).design = design := rfl

@[simp]
theorem of_version (design : Design) (version : Version) :
    (of design version).version = version := rfl

/-- The file of a pinned design. -/
def filename (p : PinnedDesign) : String := p.design.filename

/-- Design and version belong to the same issue, and the name is the one that their ids make. -/
structure Consistent (p : PinnedDesign) : Prop where
  issueId : p.design.issueId = p.version.issueId
  pin : p.pin = ⟨p.design.id, p.version.id⟩

instance (p : PinnedDesign) : Decidable p.Consistent :=
  decidable_of_iff (p.design.issueId = p.version.issueId ∧ p.pin = ⟨p.design.id, p.version.id⟩)
    ⟨fun h => ⟨h.1, h.2⟩, fun h => ⟨h.issueId, h.pin⟩⟩

theorem consistent_of {design : Design} {version : Version} (h : design.issueId = version.issueId) :
    (of design version).Consistent := ⟨h, rfl⟩

theorem of_eq {p : PinnedDesign} (h : p.pin = ⟨p.design.id, p.version.id⟩) :
    of p.design p.version = p := by
  rw [of, ← h]

/-- Pairs a design with a version of its issue. -/
def ofPair (design : Design) (version : Version) : Except IssueMismatch PinnedDesign :=
  if design.issueId = version.issueId then .ok (of design version)
  else .error ⟨design.id, design.issueId, version.id, version.issueId⟩

/-- The checked construction gives exactly the consistent pairs.  A caller of it needs nothing else
about the check. -/
theorem ofPair_eq_ok_iff {design : Design} {version : Version} {p : PinnedDesign} :
    ofPair design version = .ok p ↔ p = of design version ∧ p.Consistent := by
  unfold ofPair
  split
  · rename_i h
    constructor
    · intro hp
      cases hp
      exact ⟨rfl, consistent_of h⟩
    · rintro ⟨rfl, -⟩
      rfl
  · rename_i h
    constructor
    · intro hp
      cases hp
    · rintro ⟨rfl, hp⟩
      exact absurd hp.issueId h

end PinnedDesign

end DesignHistory
