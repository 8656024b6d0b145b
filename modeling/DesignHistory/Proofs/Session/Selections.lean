import Mathlib.Data.List.Perm.Subperm
import DesignHistory.Proofs.Resolution.Agreement
import DesignHistory.Proofs.Selection.NormalForm
import DesignHistory.Proofs.Selection.Order
import DesignHistory.Proofs.Session.HandedOut

/-!
# What is answered about a selection

The pairs of a selection can be listed, they can be counted, and one can ask whether there are
any.  None of the three looks at the tables if no requested pin is left, but the store can also
be asked in any case.  It makes no difference: all of them speak of one list, the stored pairs
that the selection accepts, in the order of their pins.

## Main statements

* `Tables.map_pin_select_sublist`: the pins of the records, among those that were requested.
* `Session.selection_answers`: the answers about a selection in every session.
-/

namespace DesignHistory

open KeyOrder

/-- The pins of the records are among those that were requested, in their order. -/
theorem Tables.map_pin_select_sublist {t : Tables} (ht : t.Keyed) {sel : Selection}
    (hsel : sel.Normal) {pins : List Pin} (hpins : sel.pins = some pins) :
    ((t.select sel).map PinnedDesign.pin).Sublist pins := by
  have hsorted : ((t.select sel).map PinnedDesign.pin).Pairwise fun a b => before a b = true :=
    List.pairwise_map.2 (pairwise_select ht sel)
  have hsubset : (t.select sel).map PinnedDesign.pin ⊆ pins := by
    intro pin hpin
    obtain ⟨p, hp, rfl⟩ := List.mem_map.1 hpin
    obtain ⟨-, haccepts⟩ := (mem_select_iff ht).1 hp
    rw [(Selection.consistent_of_mem_select hp).pin]
    exact ((Selection.accepts_iff hsel).1 haccepts).2.2 pins hpins
  -- of two strictly increasing lists one is part of the other if its members are
  have hsubperm := List.subperm_of_subset (hsorted.imp ne_of_before) hsubset
  exact List.sublist_of_subperm_of_pairwise hsubperm hsorted (hsel pins hpins)

namespace Session

/-- Without an armed failure a question that is about the records of a selection is answered
from them. -/
theorem answer_of_records {s : Session} (harmed : s.store.armed = none)
    {question : Question (Given Design) (Given Version)} {resolved : Question Design Version}
    {sel : Selection} {answer : List PinnedDesign → Answer}
    (h : question.resolve? s.design? s.version? = some resolved)
    (hrecords : resolved.inquiry = sel.records.map answer) :
    (s.step (.ask question)).1 = .answer (answer (s.store.tables.select sel)) := by
  rw [outcome_ask h, hrecords, Inquiry.result_run_map, Selection.run_records _ harmed]
  rfl

/-- **All questions about a selection are answered from one list.** In a session without an armed
failure it has the stored designs and versions that the selection accepts, each pair once, by design
and then by version; and it is part of the requested pins if any were requested. -/
theorem selection_answers (before : List Step) (harmed : (after before).store.armed = none)
    (chain : List Restriction) :
    ∃ records : List PinnedDesign,
      ((after before).step (.ask (.records chain))).1 = .answer (.pinnedList records)
        ∧ ((after before).step (.ask (.loadAlways chain))).1 = .answer (.pinnedList records)
        ∧ ((after before).step (.ask (.count chain))).1 = .answer (.number records.length)
        ∧ ((after before).step (.ask (.countAlways chain))).1 = .answer (.number records.length)
        ∧ ((after before).step (.ask (.isEmpty chain))).1 = .answer (.flag records.isEmpty)
        ∧ (∀ p, p ∈ records ↔ p.pin = ⟨p.design.id, p.version.id⟩
          ∧ p.design ∈ (after before).store.tables.designs.values
          ∧ p.version ∈ (after before).store.tables.versions.values
          ∧ (Selection.ofChain chain).accepts p.design p.version = true)
        ∧ records.Nodup
        ∧ (records.Pairwise fun p q => p.design.id < q.design.id
          ∨ p.design.id = q.design.id ∧ p.version.id < q.version.id)
        ∧ ∀ pins, (Selection.ofChain chain).pins = some pins →
          records.length ≤ pins.length ∧ (records.map PinnedDesign.pin).Sublist pins := by
  have hkeyed := keyed_after before
  have hsorted := Tables.pairwise_select hkeyed (Selection.ofChain chain)
  have hcount : (Question.count chain).inquiry
      = (Selection.ofChain chain).records.map fun records => .number records.length := by
    rw [Question.inquiry, Selection.count_eq_map_records, Inquiry.map_map]
  have hisEmpty : (Question.isEmpty chain).inquiry
      = (Selection.ofChain chain).records.map fun records => .flag records.isEmpty := by
    rw [Question.inquiry, Selection.isEmpty_eq_map_records, Inquiry.map_map]
  -- the two questions that always go to the store read the same list from it
  have hloadAlways : (Question.loadAlways chain).inquiry
      = .asks fun t => .pinnedList (t.select (.ofChain chain)) := rfl
  have hcountAlways : (Question.countAlways chain).inquiry
      = .asks fun t => .number (t.select (.ofChain chain)).length := rfl
  refine ⟨(after before).store.tables.select (.ofChain chain), answer_of_records harmed rfl rfl,
    answer_ask harmed rfl hloadAlways, answer_of_records harmed rfl hcount,
    answer_ask harmed rfl hcountAlways, answer_of_records harmed rfl hisEmpty,
    fun p => Selection.mem_select_iff, ?_, ?_, fun pins hpins => ?_⟩
  · exact hsorted.imp fun h hpq => ne_of_before h (congrArg PinnedDesign.pin hpq)
  · refine hsorted.imp_of_mem fun {p q} hp hq hpq => ?_
    rw [(Selection.consistent_of_mem_select hp).pin,
      (Selection.consistent_of_mem_select hq).pin] at hpq
    exact Pin.before_iff.1 hpq
  · have hsublist :=
      Tables.map_pin_select_sublist hkeyed (Selection.normal_ofChain chain) hpins
    refine ⟨?_, hsublist⟩
    rw [← List.length_map PinnedDesign.pin]
    exact hsublist.length_le

/-- A request for the pin of a design that was created and for one that names nothing. -/
def createdAmongOthers : List Restriction := [.pins [⟨9, 9⟩, ⟨2, 3⟩, ⟨2, 3⟩], .issue 1]

/-- The created pair is listed in both ways, and no more pairs than different pins. -/
theorem selection_answers_of_creation :
    ∃ records : List PinnedDesign,
      ((after (withDesign ++ [createDesign])).step (.ask (.records createdAmongOthers))).1
          = .answer (.pinnedList records)
        ∧ ((after (withDesign ++ [createDesign])).step (.ask (.loadAlways createdAmongOthers))).1
          = .answer (.pinnedList records)
        ∧ createdPair ∈ records ∧ records.length ≤ 2 := by
  obtain ⟨records, hrecords, hload, -, -, -, hmem, -, -, hpins⟩ :=
    selection_answers (withDesign ++ [createDesign]) rfl createdAmongOthers
  have hrequested : (Selection.ofChain createdAmongOthers).pins = some [⟨2, 3⟩, ⟨9, 9⟩] := by decide
  have haccepts : (Selection.ofChain createdAmongOthers).accepts createdPair.design
      createdPair.version = true :=
    Selection.accepts_forIssue_forPins.2 ⟨rfl, rfl, by decide⟩
  exact ⟨records, hrecords, hload,
    (hmem createdPair).2 ⟨rfl, List.mem_cons_self, List.mem_cons_self, haccepts⟩,
    (hpins _ hrequested).1⟩

end Session

end DesignHistory
