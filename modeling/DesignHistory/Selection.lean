import DesignHistory.PinnedDesign
import DesignHistory.SortedList

/-!
# Selections of pinned designs

A selection describes the result of joining the designs with the versions of
their issues.  Without a restriction it has every pair of a design and a version
of one issue; it can be restricted to requested pins and to an issue.

## Main definitions

* `Selection`: the requested pins in normal form, if any, and the issue, if any.
* `Selection.forPins`, `Selection.forIssue`: restrictions.  Requesting pins twice
  keeps the common ones, naming an issue twice keeps the second.
* `Selection.accepts`: whether a pair belongs to the selection.
* `Selection.select`: the accepted pairs of two tables.
* `Restriction`, `Selection.ofChain`: restrictions as data, applied in order.

Requested pins are kept strictly increasing, so that one is found by halving and
the same requests always give the same selection.
-/

namespace DesignHistory

/-- **Which pairs of a design and a version of its issue are meant.** It is a description, and has
no pairs in it: `Selection.select` finds them in given tables, and the statement for a database is
made of the same description. -/
structure Selection where
  /-- The requested pins, strictly increasing; none when none were requested. -/
  pins : Option (List Pin) := none
  /-- The issue whose pairs are meant; none for all issues. -/
  issueId : Option IssueId := none
deriving DecidableEq, Repr

/-- One step of narrowing a selection.  Chains of such steps are what is given from outside;
`Selection.ofChain` says what they come to. -/
inductive Restriction where
  | pins (requested : List Pin)
  | issue (id : IssueId)
deriving DecidableEq, Repr

namespace Selection

/-- Every pair of a design and a version of one issue. -/
def all : Selection := {}

/-- Only the requested pins, of those requested before if there were any.  The request is sorted and
repeated pins are dropped, which is what `accepts` relies on when it looks for a pin by halving. -/
def forPins (s : Selection) (requested : List Pin) : Selection :=
  let requested := distinct requested
  match s.pins with
  | some existing => { s with pins := some (existing.filter requested.contains) }
  | none => { s with pins := some requested }

/-- Only pairs of an issue. -/
def forIssue (s : Selection) (issueId : IssueId) : Selection := { s with issueId := some issueId }

/-- Narrows a selection by one restriction. -/
def restrict (s : Selection) : Restriction → Selection
  | .pins requested => s.forPins requested
  | .issue issueId => s.forIssue issueId

/-- **The selection that a chain of restrictions describes.** Several requests for pins leave the
pins that are in all of them, and of several issues the last one counts. -/
def ofChain (restrictions : List Restriction) : Selection :=
  restrictions.foldl restrict all

/-- Whether pins were requested and none of them is left. -/
def matchesNothing (s : Selection) : Bool := s.pins == some []

/-- Whether a design and a version are one of the selected pairs: they belong to one issue, which is
the named one if any was named, and their pin is found among the requested ones if any were
requested. -/
def accepts (s : Selection) (d : Design) (v : Version) : Bool :=
  d.issueId == v.issueId
    && (match s.issueId with
        | some issueId => d.issueId == issueId
        | none => true)
    && (match s.pins with
        | some pins => bisect ⟨d.id, v.id⟩ pins
        | none => true)

/-- **The selected pairs of two tables**, in the order of the designs and, for one design, of the
versions.  Each pair is under the name that its ids make. -/
def select (s : Selection) (designs : List Design) (versions : List Version) :
    List PinnedDesign :=
  designs.flatMap fun d => (versions.filter fun v => s.accepts d v).map fun v => .of d v

/-- The selected pairs are those of the tables that are accepted, each under its own name. -/
theorem mem_select_iff {s : Selection} {designs : List Design} {versions : List Version}
    {p : PinnedDesign} :
    p ∈ s.select designs versions ↔
      p.pin = ⟨p.design.id, p.version.id⟩ ∧ p.design ∈ designs ∧ p.version ∈ versions
        ∧ s.accepts p.design p.version = true := by
  simp only [select, List.mem_flatMap, List.mem_map, List.mem_filter]
  constructor
  · rintro ⟨d, hd, v, ⟨hv, haccepts⟩, rfl⟩
    exact ⟨rfl, hd, hv, haccepts⟩
  · rintro ⟨hpin, hd, hv, haccepts⟩
    exact ⟨p.design, hd, p.version, ⟨hv, haccepts⟩, PinnedDesign.of_eq hpin⟩

theorem issueId_of_accepts {s : Selection} {d : Design} {v : Version}
    (h : s.accepts d v = true) : d.issueId = v.issueId := by
  simp only [accepts, Bool.and_eq_true, beq_iff_eq] at h
  exact h.1.1

theorem consistent_of_mem_select {s : Selection} {designs : List Design}
    {versions : List Version} {p : PinnedDesign} (h : p ∈ s.select designs versions) :
    p.Consistent := by
  obtain ⟨hpin, -, -, haccepts⟩ := mem_select_iff.1 h
  exact ⟨issueId_of_accepts haccepts, hpin⟩

end Selection

end DesignHistory
