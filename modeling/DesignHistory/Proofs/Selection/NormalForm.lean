import Mathlib.Data.Finset.Dedup
import Mathlib.Data.Finset.Empty
import Mathlib.Data.List.Sort
import DesignHistory.Proofs.Selection.Membership
import DesignHistory.Sql.Printer
import DesignHistory.Sql.Statements

/-!
# The normal form of a selection

Restricting takes one of two ways.  The first request for pins is sorted and freed of
repetitions, every later one only strikes pins off what the first one left.  Both lead to the
same list: the pins that are in every request, in strictly increasing order.  So a selection
says nothing of how it was made, and neither does the statement that is printed from it.

## Main definitions

* `Restriction.requestedSets`: the requests of a chain, as a set of sets of pins.

## Main statements

* `Selection.Normal.eq_of_leaves`: a selection in normal form is determined by what it leaves.
* `Selection.ofChain_eq_iff`: when two chains make the same selection.
* `Selection.ofChain_normal_form`: the selection that a chain makes, and chains whose requests
  differ in order and repetition only.
-/

namespace DesignHistory

open KeyOrder

/-- Pins are ordered by design, and pins of one design by version, both as numbers.  A database that
sorts rows by two columns comes to the same order. -/
theorem Pin.before_iff {p q : Pin} :
    before p q = true ↔
      p.designId < q.designId ∨ p.designId = q.designId ∧ p.versionId < q.versionId := by
  show (decide (p.designId < q.designId)
    || (!decide (q.designId < p.designId) && decide (p.versionId < q.versionId))) = true ↔ _
  simp only [Bool.or_eq_true, Bool.and_eq_true, Bool.not_eq_true', decide_eq_true_eq,
    decide_eq_false_iff_not, Int64.not_lt]
  constructor
  · rintro (hdesign | ⟨hle, hversion⟩)
    · exact .inl hdesign
    · rcases Int64.lt_or_eq_of_le hle with hlt | heq
      · exact .inl hlt
      · exact .inr ⟨heq, hversion⟩
  · rintro (hdesign | ⟨heq, hversion⟩)
    · exact .inl hdesign
    · exact .inr ⟨heq ▸ Int64.le_refl _, hversion⟩

/-! ### The requests of a chain -/

namespace Restriction

/-- The pins that a restriction requests. -/
def requested? : Restriction → Option (List Pin)
  | .pins requested => some requested
  | .issue _ => none

/-- The sets of pins that a chain requests.  Neither the order of the requests is left in them nor
that of the pins in a request, and nothing is there twice. -/
def requestedSets (chain : List Restriction) : Finset (Finset Pin) :=
  ((chain.filterMap requested?).map List.toFinset).toFinset

variable {chain other : List Restriction}

/-- Each request gives one of the sets. -/
theorem mem_requestedSets_iff {set : Finset Pin} :
    set ∈ requestedSets chain
      ↔ ∃ requested, .pins requested ∈ chain ∧ requested.toFinset = set := by
  rw [requestedSets, List.mem_toFinset, List.mem_map]
  refine exists_congr fun requested => and_congr_left fun _ => ?_
  rw [List.mem_filterMap]
  constructor
  · rintro ⟨r, hr, hrequested⟩
    cases r with
    | pins pins =>
      obtain rfl := Option.some.inj hrequested
      exact hr
    | issue id => cases hrequested
  · exact fun h => ⟨_, h, rfl⟩

/-- Pins are requested if there is a set of them. -/
theorem requests_iff : Requests chain ↔ (requestedSets chain).Nonempty := by
  constructor
  · rintro ⟨requested, h⟩
    exact ⟨_, mem_requestedSets_iff.2 ⟨requested, h, rfl⟩⟩
  · rintro ⟨set, hset⟩
    obtain ⟨requested, h, -⟩ := mem_requestedSets_iff.1 hset
    exact ⟨requested, h⟩

/-- A pin is in every request if it is in all the sets. -/
theorem isCommon_iff {pin : Pin} :
    IsCommon chain pin ↔ ∀ set ∈ requestedSets chain, pin ∈ set := by
  constructor
  · intro h set hset
    obtain ⟨requested, hmem, rfl⟩ := mem_requestedSets_iff.1 hset
    exact List.mem_toFinset.2 (h requested hmem)
  · intro h requested hmem
    exact List.mem_toFinset.1 (h _ (mem_requestedSets_iff.2 ⟨requested, hmem, rfl⟩))

end Restriction

/-! ### Selections -/

namespace Selection

variable {chain other : List Restriction}

/-- Two selections in normal form are equal if they name the same issue and leave the same pins, and
pins were requested in both or in none.  A strictly increasing list is determined by its members. -/
theorem Normal.eq_of_leaves {s t : Selection} (hs : s.Normal) (ht : t.Normal)
    (hissue : s.issueId = t.issueId) (hsome : s.pins.isSome = true ↔ t.pins.isSome = true)
    (hleaves : ∀ pin, s.Leaves pin ↔ t.Leaves pin) : s = t := by
  obtain ⟨pins, issueId⟩ := s
  obtain ⟨pins', issueId'⟩ := t
  obtain rfl : issueId = issueId' := hissue
  cases pins with
  | none =>
    cases pins' with
    | none => rfl
    | some pins' => exact absurd (hsome.2 rfl) Bool.false_ne_true
  | some pins =>
    cases pins' with
    | none => exact absurd (hsome.1 rfl) Bool.false_ne_true
    | some pins' =>
      -- of what a selection leaves there is one strictly increasing list
      have hmem : ∀ pin, pin ∈ pins ↔ pin ∈ pins' := by
        intro pin
        have hpin := hleaves pin
        simpa [Leaves] using hpin
      rw [(hs pins rfl).eq_of_mem_iff (ht pins' rfl) hmem]

/-- The pins that a chain leaves are those in every request of it. -/
theorem mem_pins_ofChain_iff {pins : List Pin} (hpins : (ofChain chain).pins = some pins)
    {pin : Pin} : pin ∈ pins ↔ Restriction.IsCommon chain pin := by
  rw [← leaves_ofChain_iff_isCommon, Leaves, hpins]
  constructor
  · rintro h pins ⟨⟩
    exact h
  · exact fun h => h pins rfl

/-- Two chains make the same selection exactly if they name the same issue last, both or neither of
them request pins, and the same pins are in every request.  So how a selection was arrived at cannot
be told from it. -/
theorem ofChain_eq_iff :
    ofChain chain = ofChain other ↔
      (Restriction.Requests chain ↔ Restriction.Requests other)
        ∧ (∀ pin, Restriction.IsCommon chain pin ↔ Restriction.IsCommon other pin)
        ∧ Restriction.lastIssue? chain = Restriction.lastIssue? other := by
  simp only [← isSome_pins_ofChain_iff, ← leaves_ofChain_iff_isCommon, ← issueId_ofChain]
  constructor
  · intro h
    rw [h]
    exact ⟨Iff.rfl, fun _ => Iff.rfl, rfl⟩
  · rintro ⟨hsome, hleaves, hissue⟩
    exact (normal_ofChain chain).eq_of_leaves (normal_ofChain other) hissue hsome hleaves

/-- **A chain of restrictions has a normal form.** A chain without a request leaves all pins.
Otherwise the selection holds the pins that are in every request, in strictly increasing order, and
it matches nothing exactly if there are none.  Two chains that request the same sets of pins and
name the same issue last make the same selection, and the same statements are printed from it. -/
theorem ofChain_normal_form (chain : List Restriction) :
    ((ofChain chain).pins = none ↔ ¬Restriction.Requests chain)
      ∧ (∀ pins, (ofChain chain).pins = some pins →
        (pins.Pairwise fun p q =>
            p.designId < q.designId ∨ p.designId = q.designId ∧ p.versionId < q.versionId)
          ∧ ∀ pin, pin ∈ pins ↔ Restriction.IsCommon chain pin)
      ∧ ((ofChain chain).matchesNothing = true ↔
        Restriction.Requests chain ∧ ∀ pin, ¬Restriction.IsCommon chain pin)
      ∧ ∀ other, Restriction.requestedSets chain = Restriction.requestedSets other →
        Restriction.lastIssue? chain = Restriction.lastIssue? other →
          ofChain chain = ofChain other
            ∧ ∀ aspect, ((ofChain chain).statement aspect).text
              = ((ofChain other).statement aspect).text := by
  refine ⟨?_, fun pins hpins => ⟨?_, fun pin => mem_pins_ofChain_iff hpins⟩, ?_, ?_⟩
  · rw [← isSome_pins_ofChain_iff, Bool.not_eq_true, Option.isSome_eq_false_iff,
      Option.isNone_iff_eq_none]
  · exact (normal_ofChain chain pins hpins).imp Pin.before_iff.1
  · rw [matchesNothing_iff, isSome_pins_ofChain_iff]
    simp only [leaves_ofChain_iff_isCommon]
  · intro other hsets hissue
    have hsame : ofChain chain = ofChain other := by
      refine ofChain_eq_iff.2 ⟨?_, fun pin => ?_, hissue⟩
      · rw [Restriction.requests_iff, Restriction.requests_iff, hsets]
      · rw [Restriction.isCommon_iff, Restriction.isCommon_iff, hsets]
    rw [hsame]
    exact ⟨rfl, fun _ => rfl⟩

/-- The requests of `narrowedTwice` the other way round, with pins in another order, one of the
requests made again, and the issue that counts named first. -/
def narrowedAgain : List Restriction :=
  [.pins [⟨-1, -2⟩, ⟨7, 7⟩, ⟨-1, 2⟩], .issue 1, .pins [⟨-1, -2⟩, ⟨-1, 2⟩, ⟨3, 4⟩],
    .pins [⟨7, 7⟩, ⟨7, 7⟩, ⟨-1, 2⟩, ⟨-1, -2⟩]]

/-- Both chains leave the two pins that all requests have, numbers below zero in numerical
order, and make one selection. -/
theorem ofChain_normal_form_narrowedAgain :
    ofChain narrowedTwice = ofChain narrowedAgain
      ∧ (∀ pin, pin ∈ ([⟨-1, -2⟩, ⟨-1, 2⟩] : List Pin) ↔ Restriction.IsCommon narrowedAgain pin)
      ∧ (ofChain narrowedAgain).matchesNothing = false := by
  obtain ⟨-, -, -, hsame⟩ := ofChain_normal_form narrowedTwice
  obtain ⟨-, hpins, hnothing, -⟩ := ofChain_normal_form narrowedAgain
  have hleft : (ofChain narrowedAgain).pins = some [⟨-1, -2⟩, ⟨-1, 2⟩] := by decide
  obtain ⟨-, hcommon⟩ := hpins _ hleft
  refine ⟨(hsame narrowedAgain (by decide) (by decide)).1, hcommon, ?_⟩
  rw [Bool.eq_false_iff, ne_eq, hnothing]
  rintro ⟨-, hnone⟩
  exact hnone ⟨-1, 2⟩ ((hcommon _).1 (by decide))

end Selection

end DesignHistory
