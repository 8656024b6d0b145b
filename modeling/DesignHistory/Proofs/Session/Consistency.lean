import DesignHistory.Proofs.Resolution.Consistency
import DesignHistory.Proofs.Session.Lookups
import DesignHistory.Sql.Meaning

/-!
# Answers that belong together

No step of a session answers with a design and a version of two issues.  Most answers come
straight from a query.  A poll gets what was found at an earlier step, so the answers that
handles hold have to be followed from the dispatch that found them.

## Main definitions

* `Session.HoldsConsistent`: the pinned designs that handles hold belong together.

## Main statements

* `Session.answered_step_cases`: where the answer of a handle comes from.
* `Session.mem_pinnedDesigns_step`: where the pinned designs in an answer come from.
* `Session.holdsConsistent_after`: what handles hold in every session.
* `Session.pinned_designs_consistent`: what every step of every session answers with.
-/

namespace DesignHistory

/-! ### Answers to tickets -/

/-- What a lookup finds at a store is what its pin names there. -/
theorem Store.pinned?_of_fetched {s : Store} {pin : Pin} {p : PinnedDesign}
    (h : s.fetched pin = .ok (some p)) : s.tables.pinned? pin = some p := by
  unfold fetched at h
  split at h
  · cases h
  · exact Except.ok.inj h

/-- What a dispatch finds for a ticket is what some pin names in the store. -/
theorem Loader.exists_pinned?_of_mem_answers {l : Loader} {s : Store} (hs : s.tables.Keyed)
    {t : Ticket} {p : PinnedDesign} (h : (t, .ok (some p)) ∈ (l.dispatch s).answers) :
    ∃ pin, s.tables.pinned? pin = some p := by
  rw [l.answers_dispatch hs] at h
  obtain ⟨pin, -, hpin⟩ := Batch.mem_label_iff.1 h
  exact ⟨pin, Store.pinned?_of_fetched hpin.symm⟩

/-- What is collected for a ticket was given to it. -/
theorem exists_of_mem_collect {slots : List (Option Ticket)}
    {answers : List (Ticket × LoadResult)} {results : List (Option PinnedDesign)}
    (h : collect slots answers = .ok results) {p : PinnedDesign} (hp : some p ∈ results) :
    ∃ t, (t, .ok (some p)) ∈ answers := by
  obtain ⟨slot, -, hslot⟩ := exists_of_mem_mapM h hp
  cases slot with
  | none => cases hslot
  | some t =>
    change (answerTo t answers).getD (.error .cancelled) = .ok (some p) at hslot
    cases hanswer : answerTo t answers with
    | none =>
      rw [hanswer] at hslot
      cases hslot
    | some r =>
      rw [hanswer] at hslot
      cases hslot
      exact ⟨t, mem_of_answerTo hanswer⟩

/-- A handle that is answered was answered before, or gets the answer of its ticket. -/
theorem Handle.receive_eq_answered {answers : List (Ticket × LoadResult)} {h : Handle}
    {r : LoadResult} (hr : h.receive answers = .answered r) :
    h = .answered r ∨ ∃ t, (t, r) ∈ answers := by
  cases h with
  | answered r' => exact .inl hr
  | waiting t =>
    simp only [receive] at hr
    split at hr
    · rename_i r' hanswer
      cases hr
      exact .inr ⟨t, mem_of_answerTo hanswer⟩
    · cases hr

namespace Session

/-! ### What handles hold -/

/-- What a step finds for a ticket is what some pin names in the store.  So it is enough to know
what pins name. -/
theorem exists_pinned?_of_mem_answers {s : Session} (hs : s.store.tables.Keyed) {step : Step}
    {t : Ticket} {p : PinnedDesign} (h : (t, .ok (some p)) ∈ s.answers step) :
    ∃ pin, s.store.tables.pinned? pin = some p := by
  have hcancelled : ∀ b : Batch, (t, .ok (some p)) ∉ b.cancellations := by
    intro b hb
    obtain ⟨t', -, heq⟩ := List.mem_map.1 hb
    cases heq
  cases step with
  | newLoader n | dropLoader n =>
    rw [answers] at h
    cases hl : s.loaders.get? n <;> rw [hl] at h
    · cases h
    · exact absurd h (hcancelled _)
  | dispatch n | resolveAll n identities =>
    rw [answers] at h
    cases hl : s.loaders.get? n <;> rw [hl] at h
    · cases h
    · exact Loader.exists_pinned?_of_mem_answers hs h
  | _ => cases h

/-- The answer of a handle was there before, or the step gives it to a ticket, unless there
is nothing to look up. -/
theorem answered_step_cases {s : Session} {step : Step} {handle : String} {p : PinnedDesign}
    (h : (s.step step).2.handles.get? handle = some (.answered (.ok (some p)))) :
    s.handles.get? handle = some (.answered (.ok (some p)))
      ∨ ∃ t, (t, .ok (some p)) ∈ s.answers step := by
  cases hkept : s.releases handle step with
  | true =>
    rcases handle_step_of_releases hkept with hgone | ⟨name, pin, t, hwaits, -⟩ | hnone
    · rw [hgone] at h
      cases h
    · rw [hwaits] at h
      cases h
    · rw [hnone] at h
      cases h
  | false =>
    rw [handle_step hkept] at h
    obtain ⟨hd, hhandle, hreceived⟩ := Option.map_eq_some_iff.1 h
    rcases Handle.receive_eq_answered hreceived with rfl | hgiven
    · exact .inl hhandle
    · exact .inr hgiven

/-- The pinned designs that handles hold belong together.  Handles need an invariant of their own,
because a poll answers with what was found at an earlier step. -/
def HoldsConsistent (s : Session) : Prop :=
  ∀ {handle p}, s.handles.get? handle = some (.answered (.ok (some p))) → p.Consistent

/-- A step keeps what handles hold together. -/
theorem holdsConsistent_step {s : Session} (hs : s.store.tables.Keyed) (h : s.HoldsConsistent)
    (step : Step) : (s.step step).2.HoldsConsistent := by
  intro handle p hp
  rcases answered_step_cases hp with hp | ⟨t, ht⟩
  · exact h hp
  · obtain ⟨pin, hpin⟩ := exists_pinned?_of_mem_answers hs ht
    exact Tables.consistent_of_pinned? hpin

/-- In every session the pinned designs that handles hold belong together. -/
theorem holdsConsistent_after (steps : List Step) : (after steps).HoldsConsistent := by
  refine (after_induction (P := fun s => s.store.tables.Keyed ∧ s.HoldsConsistent)
    ⟨keyed_after [], ?_⟩ ?_ steps).2
  · intro handle p hp
    cases hp
  · intro s step ⟨hkeyed, hholds⟩
    exact ⟨keyed_step hkeyed step, holdsConsistent_step hkeyed hholds step⟩

/-! ### What steps answer with -/

/-- A pinned design that a step answers with is in the answer to a question, or a handle held it, or
it was found for a ticket.  Each of the three ways has been dealt with on its own. -/
theorem mem_pinnedDesigns_step {s : Session} {step : Step} {p : PinnedDesign}
    (hp : p ∈ (s.step step).1.pinnedDesigns) :
    (∃ question resolved a, step = .ask question
        ∧ question.resolve? s.design? s.version? = some resolved
        ∧ (resolved.inquiry.run s.store).1 = .ok a ∧ p ∈ a.pinnedDesigns)
      ∨ (∃ handle, s.handles.get? handle = some (.answered (.ok (some p))))
      ∨ ∃ t, (t, .ok (some p)) ∈ s.answers step := by
  cases step with
  | ask question =>
    simp only [step] at hp
    split at hp
    · cases hp
    · rename_i resolved hresolved
      obtain ⟨a, hresult, hp⟩ := Outcome.exists_of_mem_ofExcept (fun _ => rfl) hp
      exact .inl ⟨question, resolved, a, rfl, hresolved, hresult, hp⟩
  | poll handle =>
    simp only [step] at hp
    split at hp
    · cases hp
    · cases hp
    · rename_i result hresult
      obtain ⟨a, ha, hp⟩ := Outcome.exists_of_mem_ofExcept (fun _ => rfl) hp
      obtain ⟨value, rfl, rfl⟩ := exists_of_map_eq_ok ha
      obtain rfl := Option.mem_toList.1 hp
      exact .inr (.inl ⟨handle, hresult⟩)
  | resolveAll n identities =>
    simp only [step] at hp
    split at hp
    · cases hp
    · rename_i l hl
      obtain ⟨a, ha, hp⟩ := Outcome.exists_of_mem_ofExcept (fun _ => rfl) hp
      obtain ⟨-, -, ha⟩ := exists_of_bind_eq_ok ha
      obtain ⟨slots, hcollect, rfl⟩ := exists_of_map_eq_ok ha
      obtain ⟨slot, hslot, rfl⟩ := List.mem_filterMap.1 hp
      obtain ⟨t, ht⟩ := exists_of_mem_collect hcollect hslot
      refine .inr (.inr ⟨t, ?_⟩)
      rw [answers, hl]
      exact ht
  | dispatch n =>
    simp only [step] at hp
    split at hp
    · cases hp
    · obtain ⟨a, ha, hp⟩ := Outcome.exists_of_mem_ofExcept (fun _ => rfl) hp
      obtain ⟨n, -, rfl⟩ := exists_of_map_eq_ok ha
      cases hp
  | eventsFor n version | eventFor n designId version =>
    simp only [step] at hp
    split at hp
    · rename_i cache v hcache hv
      cases hresult : (s.eventsFor n cache v).1 <;> rw [hresult] at hp <;> cases hp
    · cases hp
  | _ =>
    -- the other steps have no place for a pinned design in what they answer
    simp only [step] at hp
    (repeat' split at hp) <;> cases hp

/-- The pinned designs that a step answers with belong together. -/
theorem consistent_of_mem_step {s : Session} (hs : s.store.tables.Keyed) (h : s.HoldsConsistent)
    {step : Step} {p : PinnedDesign} (hp : p ∈ (s.step step).1.pinnedDesigns) : p.Consistent := by
  rcases mem_pinnedDesigns_step hp with ⟨-, resolved, a, -, -, hresult, hp⟩ | ⟨handle, hheld⟩ |
    ⟨t, ht⟩
  · exact resolved.yields_consistent.of_run hresult p hp
  · exact h hheld
  · obtain ⟨pin, hpin⟩ := exists_pinned?_of_mem_answers hs ht
    exact Tables.consistent_of_pinned? hpin

/-- **Every pinned design belongs together.** Whatever a step of any session answers with, and
whatever is read from any reply of a database, is a design and a version of one issue under the name
that their ids make. -/
theorem pinned_designs_consistent :
    (∀ steps step, ∀ p ∈ ((after steps).step step).1.pinnedDesigns,
        p.design.issueId = p.version.issueId ∧ p.pin = ⟨p.design.id, p.version.id⟩)
      ∧ ∀ selection reply ps, ((Database.loadPinned selection).perform reply).result = .ok ps →
        ∀ p ∈ ps, p.design.issueId = p.version.issueId ∧ p.pin = ⟨p.design.id, p.version.id⟩ := by
  constructor
  · intro steps step p hp
    have hconsistent := consistent_of_mem_step (keyed_after steps) (holdsConsistent_after steps) hp
    exact ⟨hconsistent.issueId, hconsistent.pin⟩
  · intro selection reply ps hps p hp
    have hconsistent := Database.consistent_of_loadPinned hps p hp
    exact ⟨hconsistent.issueId, hconsistent.pin⟩

/-- A design that a version creates. -/
def createdDesign : List Step :=
  [.insertIssue 1 "i", .insertDesign (.stored 1) "a.png",
    .commitVersion (.stored 1) [(2, .creation)] default]

/-- The design of `createdDesign` as of a version that is not stored. -/
def pairUnstored : PinnedDesign := .of ⟨2, 1, 1, "a.png"⟩ ⟨9, 1, "", none, default⟩

/-- A snapshot of a version that is not stored, and a row of a database. -/
theorem pinned_designs_consistent_of_unstored :
    ((after createdDesign).step (.ask (.allForVersion (.literal pairUnstored.version) {}))).1
        = .answer (.pinnedList [pairUnstored])
      ∧ pairUnstored.pin = ⟨2, 9⟩
      ∧ ((Database.loadPinned .all).perform (.rows (Sql.designColumns ++ Sql.versionColumns)
          [(pairUnstored.design.row ++ pairUnstored.version.row).map Prod.snd])).result
        = .ok [pairUnstored]
      ∧ pairUnstored.design.issueId = pairUnstored.version.issueId := by
  have hlist : ((after createdDesign).step
        (.ask (.allForVersion (.literal pairUnstored.version) {}))).1
      = .answer (.pinnedList [pairUnstored]) := rfl
  have hrow : ((Database.loadPinned .all).perform
        (.rows (Sql.designColumns ++ Sql.versionColumns)
          [(pairUnstored.design.row ++ pairUnstored.version.row).map Prod.snd])).result
      = .ok [pairUnstored] := rfl
  obtain ⟨hsession, hdatabase⟩ := pinned_designs_consistent
  have hmem : pairUnstored ∈ ((after createdDesign).step
      (.ask (.allForVersion (.literal pairUnstored.version) {}))).1.pinnedDesigns := by
    rw [hlist]
    exact List.mem_singleton.2 rfl
  obtain ⟨-, hpin⟩ := hsession _ _ pairUnstored hmem
  obtain ⟨hissue, -⟩ := hdatabase _ _ _ hrow pairUnstored (List.mem_singleton.2 rfl)
  exact ⟨hlist, hpin, hrow, hissue⟩

end Session

end DesignHistory
