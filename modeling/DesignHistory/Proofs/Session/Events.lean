import DesignHistory.Proofs.Store.Events

/-!
# Two ways to ask what a version did

What a version did to a design can be asked of the pair of them, and of a cache that
loads the events of a version at once.  The two agree on a version that records at most
one event for the design.  Where a commit was given several, the first way answers with
the first of them and the second way with the last.

## Main statements

* `Session.outcome_eventAt`, `Session.outcome_eventFor_of_new`: what the two ways answer.
* `Session.eventsOn_after_commit`: the events that a commit was given stay on record.
* `Session.event_answers_agree_iff`: when the two ways agree.
-/

namespace DesignHistory.Session

/-! ### The two answers -/

section Answers

variable {s : Session} {givenDesign : Given Design} {givenVersion : Given Version} {d : Design}
  {v : Version}

/-- Asked of a pair of one issue, the answer is the first event on record. -/
theorem outcome_eventAt (harmed : s.store.armed = none) (hd : s.design? givenDesign = some d)
    (hv : s.version? givenVersion = some v) (hissue : d.issueId = v.issueId) :
    (s.step (.ask (.eventAt givenDesign givenVersion))).1
      = .answer (.event (s.store.tables.eventsOn v.id d.id).head?) := by
  have hresolved : (Question.eventAt givenDesign givenVersion).resolve? s.design? s.version?
      = some (.eventAt d v) := by
    rw [Question.resolve?, hd, hv]
    rfl
  have hpair : PinnedDesign.ofPair d v = .ok (.of d v) :=
    PinnedDesign.ofPair_eq_ok_iff.2 ⟨rfl, PinnedDesign.consistent_of hissue⟩
  have hasks : (Question.eventAt d v).inquiry = .asks fun t => .event
      (((t.actionsOfVersion v.id).find? fun a => a.designId == d.id).map fun a => a.event) := by
    rw [Question.inquiry, hpair]
    rfl
  rw [answer_ask harmed hresolved hasks, Tables.event_find?_actionsOfVersion]

/-- Asked of a cache with nothing in it, the answer is the last event on record. -/
theorem outcome_eventFor_of_new (harmed : s.store.armed = none) {cache : String}
    (hcache : s.caches.get? cache = some {}) (hv : s.version? givenVersion = some v)
    (designId : DesignId) :
    (s.step (.eventFor cache designId givenVersion)).1
      = .answer (.event (s.store.tables.eventsOn v.id designId).getLast?) := by
  have hloaded : (EventCache.eventsFor {} v s.store).result
      = .ok (s.store.tables.eventsOfVersion v.id) := by
    simp only [EventCache.eventsFor, SortedMap.get?_empty, Store.query, harmed]
  simp only [step, hcache, hv, eventsFor, hloaded, Except.map, Except.mapError,
    Outcome.ofResult, Outcome.ofExcept_ok, Tables.get?_eventsOfVersion]

end Answers

/-! ### What is on record -/

/-- What a commit was given for a design stays on record, in the order in which it was given.  So
the first and the last event on record are the first and the last one that were given. -/
theorem eventsOn_after_commit {before later : List Step} {given : Given Issue}
    {events : List (DesignId × Event)} {createdAt : Instant} {v : Version}
    (hids : IdsSuffice (before ++ [.commitVersion given events createdAt] ++ later))
    (hcommit : ((after before).step (.commitVersion given events createdAt)).1
      = .answer (.version (some v))) (designId : DesignId) :
    (after (before ++ [.commitVersion given events createdAt] ++ later)).store.tables.eventsOn
        v.id designId
      = (events.filter fun e => e.1 == designId).map Prod.snd := by
  obtain ⟨hbefore, hid, -⟩ := along_append.1 (along_append.1 hids).1
  have hlast := (stored_at_commit hcommit).1
  -- nothing that is recorded later belongs to the version
  rw [(continues_after hids).tables.eventsOn_eq (hlast ▸ Int64.le_refl _)]
  obtain ⟨issue, hwrite, rfl⟩ := write?_of_commit hcommit
  have hwrites : ((after before).write? (.commitVersion given events createdAt)).isSome = true := by
    rw [hwrite]
    rfl
  rw [after_append, run_cons, run_nil, tables_step, written_of_some hwrite]
  exact Store.eventsOn_write (bounded_after hbefore) (hid hwrites) issue events createdAt designId

/-! ### Agreement -/

/-- **When the two answers about an event agree.** For a design and a version of one issue, the pair
and a new cache answer alike exactly if the first and the last of the events that the version
recorded for the design are the same; and what it recorded is what its commit was given. -/
theorem event_answers_agree_iff {steps : List Step} (harmed : (after steps).store.armed = none)
    {givenDesign : Given Design} {givenVersion : Given Version} {d : Design} {v : Version}
    (hd : (after steps).design? givenDesign = some d)
    (hv : (after steps).version? givenVersion = some v) (hissue : d.issueId = v.issueId)
    (cache : String) :
    (((after steps).step (.ask (.eventAt givenDesign givenVersion))).1
          = ((after (steps ++ [.newCache cache])).step (.eventFor cache d.id givenVersion)).1
        ↔ ((after steps).store.tables.eventsOn v.id d.id).head?
          = ((after steps).store.tables.eventsOn v.id d.id).getLast?)
      ∧ ∀ before issue events createdAt later, IdsSuffice steps →
        steps = before ++ .commitVersion issue events createdAt :: later →
        ((after before).step (.commitVersion issue events createdAt)).1
            = .answer (.version (some v)) →
        (after steps).store.tables.eventsOn v.id d.id
          = (events.filter fun e => e.1 == d.id).map Prod.snd := by
  constructor
  · have hnew : after (steps ++ [.newCache cache]) = ((after steps).step (.newCache cache)).2 := by
      rw [after_append, run_cons, run_nil]
    have hcache : ((after steps).step (.newCache cache)).2.caches.get? cache = some {} :=
      SortedMap.get?_insert_self _ _ _
    have hfor := outcome_eventFor_of_new (s := ((after steps).step (.newCache cache)).2) harmed
      hcache hv d.id
    rw [hnew, hfor, outcome_eventAt harmed hd hv hissue, Outcome.answer.injEq, Answer.event.injEq]
    rfl
  · rintro before issue events createdAt later hids rfl hcommit
    rw [List.append_cons] at hids ⊢
    exact eventsOn_after_commit hids hcommit d.id

/-- A version that creates a design and deletes it at once. -/
def createdAndDeleted : List Step :=
  [.insertIssue 1 "i", .insertDesign (.stored 1) "a.png",
    .commitVersion (.stored 1) [(2, .creation), (2, .deletion)] default]

/-- The pair answers that the design was created, and a new cache that it was deleted. -/
theorem event_answers_differ :
    ((after createdAndDeleted).step (.ask (.eventAt (.stored 2) (.stored 3)))).1
        = .answer (.event (some .creation))
      ∧ ((after (createdAndDeleted ++ [.newCache "c"])).step (.eventFor "c" 2 (.stored 3))).1
        = .answer (.event (some .deletion)) :=
  ⟨rfl, rfl⟩

/-- A version that creates a design. -/
def createdOnce : List Step :=
  [.insertIssue 1 "i", .insertDesign (.stored 1) "a.png",
    .commitVersion (.stored 1) [(2, .creation)] default]

/-- A version that records one event for a design is asked both ways with one answer. -/
theorem event_answers_agree_on_creation :
    ((after createdOnce).step (.ask (.eventAt (.stored 2) (.stored 3)))).1
      = ((after (createdOnce ++ [.newCache "c"])).step (.eventFor "c" 2 (.stored 3))).1 := by
  have hd : (after createdOnce).design? (.stored 2) = some ⟨2, 1, 1, "a.png"⟩ := rfl
  have hv : (after createdOnce).version? (.stored 3)
      = some ⟨3, 1, Version.computeSha 1 none [⟨2, 3, .creation⟩], none, default⟩ := rfl
  have hagree := (event_answers_agree_iff rfl hd hv rfl "c").1
  exact hagree.2 rfl

end DesignHistory.Session
