import DesignHistory.Proofs.Selection.Accepts
import DesignHistory.Proofs.Store.Writes
import DesignHistory.Resolution

/-!
# The record that a pin names

Every way of resolving a pin goes through the join of the two tables: one record
is taken off the front of a list, or it is looked up in a list of many.  This
module has the one thing they all amount to, two look-ups by id and a comparison
of the issues, and proves that a join restricted to pins is read correctly.

## Main definitions

* `Tables.pinned?`: the stored design and version that a pin names.

## Main statements

* `Tables.mem_select_iff`: the records of a selection.
* `Tables.lookup_select_forPins`: the record found for one of many requested pins.
* `Tables.head?_select_forPin`, `Tables.head?_select_forPin_forIssue`: the first
  record where one pin was requested.
-/

namespace DesignHistory

/-- Of records that are told apart by their pins, the one of a pin is found.  A table of records by
pin keeps the last one of each pin, which does not matter if there is only one. -/
theorem PinnedDesign.lookup_eq_some_iff {records : List PinnedDesign}
    (h : ∀ p ∈ records, ∀ q ∈ records, p.pin = q.pin → p = q) {pin : Pin} {p : PinnedDesign} :
    PinnedDesign.lookup pin records = some p ↔ p ∈ records ∧ p.pin = pin := by
  unfold PinnedDesign.lookup
  constructor
  · intro hp
    have hmem := List.mem_of_find?_eq_some hp
    have hpin := List.find?_some hp
    exact ⟨List.mem_reverse.1 hmem, by simpa using hpin⟩
  · rintro ⟨hmem, rfl⟩
    have hfound : (records.reverse.find? fun q => q.pin == p.pin).isSome := by
      rw [List.find?_isSome]
      exact ⟨p, List.mem_reverse.2 hmem, by simp⟩
    obtain ⟨q, hq⟩ := Option.isSome_iff_exists.1 hfound
    have hqmem := List.mem_reverse.1 (List.mem_of_find?_eq_some hq)
    have hqpin : q.pin = p.pin := by simpa using List.find?_some hq
    rw [hq, h q hqmem p hmem hqpin]

namespace Tables

/-- The design and the version that a pin names, if both are stored and belong to one issue.  It is
the meaning of a pin in terms of the tables, without a selection. -/
def pinned? (t : Tables) (pin : Pin) : Option PinnedDesign :=
  match t.designs.get? pin.designId, t.versions.get? pin.versionId with
  | some d, some v => if d.issueId = v.issueId then some (.of d v) else none
  | _, _ => none

/-- What a pin names, part by part.  That the record is under this pin is part of its
consistency. -/
theorem pinned?_eq_some_iff {t : Tables} {pin : Pin} {p : PinnedDesign} :
    t.pinned? pin = some p ↔
      t.designs.get? pin.designId = some p.design
        ∧ t.versions.get? pin.versionId = some p.version ∧ p.Consistent := by
  unfold pinned?
  split
  · rename_i d v hd hv
    split
    · rename_i hissue
      rw [hd, hv, Option.some.injEq]
      constructor
      · rintro rfl
        exact ⟨rfl, rfl, PinnedDesign.consistent_of hissue⟩
      · rintro ⟨hd, hv, hp⟩
        rw [Option.some.inj hd, Option.some.inj hv]
        exact PinnedDesign.of_eq hp.pin
    · rename_i hissue
      rw [hd, hv]
      simp only [reduceCtorEq, Option.some.injEq, false_iff, not_and]
      rintro rfl rfl hp
      exact hissue hp.issueId
  · rename_i hnone
    simp only [reduceCtorEq, false_iff, not_and]
    intro hd hv
    exact absurd hv (hnone p.design p.version hd)

theorem Keyed.pin_of_pinned? {t : Tables} (ht : t.Keyed) {pin : Pin} {p : PinnedDesign}
    (h : t.pinned? pin = some p) : p.pin = pin := by
  obtain ⟨hd, hv, hp⟩ := pinned?_eq_some_iff.1 h
  rw [hp.pin, ht.design hd, ht.version hv]

theorem consistent_of_pinned? {t : Tables} {pin : Pin} {p : PinnedDesign}
    (h : t.pinned? pin = some p) : p.Consistent :=
  (pinned?_eq_some_iff.1 h).2.2

/-! ### The records of a selection -/

/-- **The records of a selection are the accepted pairs that are stored.** All that is proved about
selections starts from this equivalence. -/
theorem mem_select_iff {t : Tables} (ht : t.Keyed) {s : Selection} {p : PinnedDesign} :
    p ∈ t.select s ↔ t.pinned? p.pin = some p ∧ s.accepts p.design p.version = true := by
  rw [select, Selection.mem_select_iff, ht.mem_designs_iff, ht.mem_versions_iff,
    pinned?_eq_some_iff]
  constructor
  · rintro ⟨hpin, hd, hv, haccepts⟩
    rw [hpin]
    exact ⟨⟨hd, hv, Selection.issueId_of_accepts haccepts, hpin⟩, haccepts⟩
  · rintro ⟨⟨hd, hv, hp⟩, haccepts⟩
    rw [hp.pin] at hd hv
    exact ⟨hp.pin, hd, hv, haccepts⟩

/-- Two records of a selection with one pin are the same. -/
theorem eq_of_mem_select {t : Tables} (ht : t.Keyed) {s : Selection} {p q : PinnedDesign}
    (hp : p ∈ t.select s) (hq : q ∈ t.select s) (h : p.pin = q.pin) : p = q := by
  have hp := ((mem_select_iff ht).1 hp).1
  have hq := ((mem_select_iff ht).1 hq).1
  rw [h, hq] at hp
  exact (Option.some.inj hp).symm

/-- A record in front of others of a selection is the only one with its pin. -/
theorem head?_select_eq_some_iff {t : Tables} (ht : t.Keyed) {s : Selection} (pin : Pin)
    (hs : ∀ d v, s.accepts d v = true → (⟨d.id, v.id⟩ : Pin) = pin) {p : PinnedDesign} :
    (t.select s).head? = some p ↔ p ∈ t.select s := by
  constructor
  · exact List.mem_of_head?
  · intro hp
    cases hl : t.select s with
    | nil => rw [hl] at hp; cases hp
    | cons q rest =>
      have hq : q ∈ t.select s := by rw [hl]; exact List.mem_cons_self
      have hpq : q.pin = p.pin := by
        obtain ⟨hqpin, -, -, hqaccepts⟩ := Selection.mem_select_iff.1 hq
        obtain ⟨hppin, -, -, hpaccepts⟩ := Selection.mem_select_iff.1 hp
        rw [hqpin, hppin, hs _ _ hqaccepts, hs _ _ hpaccepts]
      rw [List.head?_cons, eq_of_mem_select ht hq hp hpq]

/-! ### Requested pins -/

/-- Among the records of requested pins, the one of a requested pin is what the pin names.  It is
why a batch can be fetched with one query for all of its pins. -/
theorem lookup_select_forPins {t : Tables} (ht : t.Keyed) {pins : List Pin} {pin : Pin}
    (hpin : pin ∈ pins) :
    PinnedDesign.lookup pin (t.select (Selection.all.forPins pins)) = t.pinned? pin := by
  refine Option.ext fun p => ?_
  rw [PinnedDesign.lookup_eq_some_iff fun _ hp _ hq => eq_of_mem_select ht hp hq,
    mem_select_iff ht]
  constructor
  · rintro ⟨⟨hp, -⟩, rfl⟩
    exact hp
  · intro hp
    obtain rfl := ht.pin_of_pinned? hp
    exact ⟨⟨hp, (consistent_of_pinned? hp).accepts_forPins.2 hpin⟩, rfl⟩

/-- The first record of one requested pin is what the pin names. -/
theorem head?_select_forPin {t : Tables} (ht : t.Keyed) (pin : Pin) :
    (t.select (Selection.all.forPins [pin])).head? = t.pinned? pin := by
  refine Option.ext fun p => ?_
  rw [head?_select_eq_some_iff ht pin (fun d v h => by
      simpa using (Selection.accepts_forPins.1 h).2),
    mem_select_iff ht]
  constructor
  · rintro ⟨hp, haccepts⟩
    have hpin := (consistent_of_pinned? hp).accepts_forPins.1 haccepts
    rwa [← List.mem_singleton.1 hpin]
  · intro hp
    obtain rfl := ht.pin_of_pinned? hp
    exact ⟨hp, (consistent_of_pinned? hp).accepts_forPins.2 (List.mem_singleton.2 rfl)⟩

/-- The first record of one requested pin in an issue is what the pin names, if it
is of that issue. -/
theorem head?_select_forPin_forIssue {t : Tables} (ht : t.Keyed) (pin : Pin)
    (issueId : IssueId) :
    (t.select ((Selection.all.forPins [pin]).forIssue issueId)).head?
      = (t.pinned? pin).filter fun p => p.design.issueId == issueId := by
  refine Option.ext fun p => ?_
  rw [head?_select_eq_some_iff ht pin (fun d v h => by
      simpa using (Selection.accepts_forIssue_forPins.1 h).2.2),
    mem_select_iff ht, Option.filter_eq_some_iff, beq_iff_eq]
  constructor
  · rintro ⟨hp, haccepts⟩
    obtain ⟨hissue, hpin⟩ := (consistent_of_pinned? hp).accepts_forIssue_forPins.1 haccepts
    rw [← List.mem_singleton.1 hpin]
    exact ⟨hp, hissue⟩
  · rintro ⟨hp, hissue⟩
    obtain rfl := ht.pin_of_pinned? hp
    exact ⟨hp, (consistent_of_pinned? hp).accepts_forIssue_forPins.2
      ⟨hissue, List.mem_singleton.2 rfl⟩⟩

end Tables

end DesignHistory
