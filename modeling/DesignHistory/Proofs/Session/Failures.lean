import DesignHistory.Proofs.Resolution.Agreement
import DesignHistory.Proofs.Session.Twins

/-!
# Failures of one query

A failure that was armed hits the next query, whichever step makes it, and nothing else.
What the step was about is not lost with it: a question can be asked again, and what waited
on a loader can be resolved again.  The steps up to the one that is hit go as they would
have gone without the failure, and so do the steps after it.

## Main definitions

* `Step.failing`: what becomes of a step that is hit.
* `Session.Quiet`: a step that makes no query and arms no failure.
* `Session.disarmed`: a session with no failure armed.
* `Session.Hit`: what a failure does to the step that it hits.

## Main statements

* `Session.run_metered`: quiet steps do not read what is armed.
* `Session.hit_of_armed`: a step that makes a query is hit by an armed failure.
* `Session.failure_hits_once`: the course of a failure, from its arming to the repetition of
  the step that it hit.
-/

namespace DesignHistory

/-! ### What is hit -/

/-- What becomes of a step that is hit by a failure.  A batch reports the failure as one of its
fetch, everything else as one of the store. -/
def Step.failing (message : String) : Step → Outcome
  | .dispatch _ | .resolveAll .. => .loadFailed (.fetch (.injected message))
  | _ => .failed (.store (.injected message))

/-- An inquiry that makes a query is hit by an armed failure. -/
theorem Inquiry.run_of_armed {α : Type} {q : Inquiry α} {s : Store} {message : String}
    (harmed : s.armed = some message) (hcost : q.cost ≠ 0) :
    q.run s = (.error (.store (.injected message)), s.metered (s.queries + 1) none) := by
  cases q with
  | settled result => exact absurd rfl hcost
  | asks read =>
    simp only [run, Store.query, harmed]
    rfl

/-- A cache in which nothing was found is left as it is by an armed failure. -/
theorem EventCache.eventsFor_of_armed {c : EventCache} {v : Version} {s : Store}
    {message : String} (harmed : s.armed = some message) (hnew : c.byVersion.get? v.id = none) :
    c.eventsFor v s = ⟨.error (.injected message), c, s.metered (s.queries + 1) none⟩ := by
  simp only [eventsFor, hnew, Store.query, harmed]
  rfl

/-- A dispatch of a batch that is hit reports the failure. -/
theorem Loader.result_dispatch_of_armed {l : Loader} {s : Store} {message : String}
    (harmed : s.armed = some message) (hcost : l.pending.cost ≠ 0) :
    (l.dispatch s).result = .error (.fetch (.injected message)) := by
  have hwaits : l.pending.isEmpty = false :=
    Bool.eq_false_iff.2 fun hempty => hcost (Batch.cost_eq_zero_iff.2 hempty)
  rw [l.result_dispatch, hwaits, harmed]
  rfl

namespace Session

variable {s : Session} {step : Step} {message : String}

theorem write?_of_cost (hcost : s.cost step ≠ 0) : s.write? step = none := by
  cases step with
  | insertIssue projectId title => exact absurd rfl hcost
  | insertDesign given filename => exact absurd rfl hcost
  | commitVersion given events createdAt => exact absurd rfl hcost
  | _ => rfl

/-- A step that makes a query leaves the store but for its meters. -/
theorem store_step_of_cost (hcost : s.cost step ≠ 0) :
    (s.step step).2.store = s.store.metered (s.store.queries + 1) none := by
  have hone : s.cost step = 1 := by
    have := s.cost_le_one step
    omega
  have hwritten : s.written step = s.store := written_of_none (write?_of_cost hcost)
  have harms : step.arms? = none := by
    cases step with
    | failNext message => exact absurd rfl hcost
    | _ => rfl
  have heta : ∀ st : Store, st = ⟨st.tables, st.lastId, st.queries, st.armed⟩ := fun _ => rfl
  rw [heta (s.step step).2.store, tables_step, lastId_step, queries_step, armed_step, hwritten,
    hone, leavesArmed, harms, armedAfter, if_neg hcost]
  rfl

/-- A question or a look-up that is hit leaves the session but for its meters.  Steps that fetch a
batch are treated apart, since they end the batch also when they fail. -/
theorem step_of_armed (harmed : s.store.armed = some message) (hcost : s.cost step ≠ 0)
    (hbatch : ∀ name, step.fetches name = false) :
    s.step step = (step.failing message, s.metered (s.store.queries + 1) none) := by
  cases step with
  | ask question =>
    simp only [cost] at hcost
    simp only [step]
    cases hresolved : question.resolve? s.design? s.version? with
    | none =>
      rw [hresolved] at hcost
      exact absurd rfl hcost
    | some resolved =>
      rw [hresolved] at hcost
      simp only [Inquiry.run_of_armed harmed hcost]
      rfl
  | dispatch name => exact absurd (hbatch name) (by simp [Step.fetches])
  | resolveAll name identities => exact absurd (hbatch name) (by simp [Step.fetches])
  | eventsFor name version | eventFor name designId version =>
    simp only [cost] at hcost
    simp only [step]
    cases hc : s.caches.get? name with
    | none =>
      rw [hc] at hcost
      exact absurd rfl hcost
    | some c =>
      cases hv : s.version? version with
      | none =>
        rw [hc, hv] at hcost
        exact absurd rfl hcost
      | some v =>
        rw [hc, hv] at hcost
        have hnew : c.byVersion.get? v.id = none := by
          cases hfound : c.byVersion.get? v.id with
          | none => rfl
          | some events => simp [hfound] at hcost
        simp only [eventsFor, EventCache.eventsFor_of_armed harmed hnew,
          SortedMap.insert_of_get? hc]
        rfl
  | resolveIndex name references =>
    simp only [step, Inquiry.run_of_armed harmed hcost]
    rfl
  | _ => exact absurd rfl hcost

/-- A step that makes a query fails with the armed failure. -/
theorem outcome_of_armed (harmed : s.store.armed = some message) (hcost : s.cost step ≠ 0) :
    (s.step step).1 = step.failing message := by
  cases step with
  | dispatch name | resolveAll name identities =>
    simp only [cost] at hcost
    simp only [step]
    cases hl : s.loaders.get? name with
    | none =>
      rw [hl] at hcost
      exact absurd rfl hcost
    | some l =>
      rw [hl] at hcost
      simp only [dispatch, Loader.result_dispatch_of_armed harmed hcost]
      rfl
  | _ => exact congrArg Prod.fst (step_of_armed harmed hcost fun _ => rfl)

theorem caches_of_armed (harmed : s.store.armed = some message) (hcost : s.cost step ≠ 0) :
    (s.step step).2.caches = s.caches := by
  cases step with
  | dispatch name | resolveAll name identities =>
    simp only [step]
    cases s.loaders.get? name <;> rfl
  | _ => rw [step_of_armed harmed hcost fun _ => rfl, caches_metered]

/-- A step that is hit leaves the loaders that it does not fetch from. -/
theorem loaders_of_armed (harmed : s.store.armed = some message) (hcost : s.cost step ≠ 0)
    {name : String} (hname : step.fetches name = false) :
    (s.step step).2.loaders.get? name = s.loaders.get? name := by
  cases step with
  | dispatch n | resolveAll n identities =>
    have hne : name ≠ n := fun h => by simp [Step.fetches, h] at hname
    simp only [step]
    cases s.loaders.get? n with
    | none => rfl
    | some l => exact SortedMap.get?_insert_of_ne _ _ hne
  | _ => rw [step_of_armed harmed hcost fun _ => rfl, loaders_metered]

/-! ### Handles -/

/-- Every handle that waits stands in a line. -/
def InLine (s : Session) : Prop :=
  ∀ {handle t}, s.handles.get? handle = some (.waiting t) → ∃ name pin, t ∈ s.queue name pin

/-- A step leaves every handle that waits in a line.  A handle whose ticket is answered does not
wait any more, and one whose ticket is not answered stays where it is. -/
theorem inLine_step (hs : s.Sound) (h : s.InLine) (step : Step) : (s.step step).2.InLine := by
  intro handle t hwaiting
  cases hkept : s.releases handle step with
  | false =>
    rw [handle_step hkept] at hwaiting
    obtain ⟨held, hheld, hreceived⟩ := Option.map_eq_some_iff.1 hwaiting
    cases held with
    | answered result => cases hreceived
    | waiting t' =>
      obtain ⟨name, pin, ht'⟩ := h hheld
      -- a ticket that got no answer stays in its line, which has not ended
      rw [Handle.receive, answerTo_answers hs ht'] at hreceived
      cases hends : step.endsBatch name with
      | true =>
        rw [hends] at hreceived
        cases hreceived
      | false =>
        rw [hends] at hreceived
        cases hreceived
        exact ⟨name, pin, mem_queue_step.2 ⟨hends, .inl ht'⟩⟩
  | true =>
    rcases handle_step_of_releases hkept with hgone | ⟨name, pin, t', hwaits, ht'⟩ | hnone
    · rw [hgone] at hwaiting
      cases hwaiting
    · rw [hwaits] at hwaiting
      cases hwaiting
      exact ⟨name, pin, ht'⟩
    · rw [hnone] at hwaiting
      cases hwaiting

/-- In every session every handle that waits stands in a line. -/
theorem inLine_after (steps : List Step) : (after steps).InLine := by
  refine (after_induction (P := fun s => s.Sound ∧ s.InLine) ⟨sound_after [], ?_⟩ ?_ steps).2
  · intro handle t hwaiting
    cases hwaiting
  · intro s step ⟨hs, h⟩
    exact ⟨sound_step hs step, inLine_step hs h step⟩

/-- A step that fetches from a loader releases no handle. -/
theorem releases_of_fetches {name : String} (h : step.fetches name = true) (handle : String) :
    s.releases handle step = false := by
  cases step with
  | dispatch n | resolveAll n identities => rfl
  | _ => cases h

/-- A step that fetches from a loader does not close one. -/
theorem closes_of_fetches {name : String} (h : step.fetches name = true) (other : String) :
    step.closes other = false := by
  cases step with
  | dispatch n | resolveAll n identities => rfl
  | _ => cases h

/-- A handle that waits on a loader is given the failure by the step that is hit. -/
theorem answered_of_armed (hs : s.Sound) (harmed : s.store.armed = some message)
    {name handle : String} {pin : Pin} (hfetches : step.fetches name = true)
    (hwaits : s.Waits name pin handle) :
    (s.step step).2.handles.get? handle
      = some (.answered (.error (.fetch (.injected message)))) := by
  have hends : step.endsBatch name = true := by rw [Step.endsBatch, hfetches, Bool.true_or]
  rw [answered_step_of_waits hs hwaits (releases_of_fetches hfetches handle) hends, verdict,
    closes_of_fetches hfetches name, Store.fetched, harmed]
  rfl

/-- A handle that does not wait on a loader from which the step fetches is left as it is by the step
that is hit.  The handles that do wait there get the failure. -/
theorem handle_of_armed (hs : s.Sound) (hline : s.InLine) (harmed : s.store.armed = some message)
    (hcost : s.cost step ≠ 0) {handle : String}
    (hother : ∀ name pin, step.fetches name = true → ¬s.Waits name pin handle) :
    (s.step step).2.handles.get? handle = s.handles.get? handle := by
  by_cases hbatch : ∀ name, step.fetches name = false
  · rw [step_of_armed harmed hcost hbatch, handles_metered]
  · obtain ⟨n, hn⟩ := not_forall.1 hbatch
    have hfetches : step.fetches n = true := by simpa using hn
    rw [handle_step (releases_of_fetches hfetches handle)]
    cases hheld : s.handles.get? handle with
    | none => rfl
    | some held =>
      cases held with
      | answered result => rfl
      | waiting t =>
        obtain ⟨name, pin, ht⟩ := hline hheld
        have hends : step.endsBatch name = false := by
          rw [Step.endsBatch, closes_of_fetches hfetches name, Bool.or_false]
          exact Bool.eq_false_iff.2 fun hname => hother name pin hname ⟨t, hheld, ht⟩
        rw [Option.map_some, Handle.receive, answerTo_answers hs ht, hends]
        rfl

/-! ### The course of a failure -/

/-- A step that makes no query and arms no failure.  Such a step cannot tell whether a failure is
armed. -/
def Quiet (s : Session) (step : Step) : Prop :=
  step.arms? = none ∧ (s.step step).2.store.queries = s.store.queries

instance (s : Session) (step : Step) : Decidable (s.Quiet step) :=
  inferInstanceAs (Decidable (_ ∧ _))

/-- The same session with no failure armed. -/
def disarmed (s : Session) : Session := s.metered s.store.queries none

/-- Quiet steps do not read the meters and leave them alone. -/
theorem run_metered {steps : List Step} (h : Along Quiet s steps) (n : Nat)
    (armed : Option String) :
    (s.metered n armed).run steps = ((s.run steps).1, (s.run steps).2.metered n armed) := by
  induction steps generalizing s with
  | nil => rfl
  | cons step rest ih =>
    obtain ⟨⟨harms, hqueries⟩, hrest⟩ := h
    have hcost : s.cost step = 0 := by
      rw [queries_step] at hqueries
      omega
    have hleaves : s.leavesArmed step armed = armed := by
      rw [leavesArmed, harms, hcost]
      rfl
    simp only [run, step_metered (.inr hcost), hleaves, hcost, Nat.add_zero, ih hrest]

/-- Quiet steps after the arming of a failure lead to where they lead without it, but for what
is armed. -/
theorem disarmed_run (hnone : s.store.armed = none) {steps : List Step}
    (hquiet : Along Quiet (s.metered s.store.queries (some message)) steps) :
    ((s.metered s.store.queries (some message)).run steps).2.disarmed = (s.run steps).2 := by
  have hback : (s.metered s.store.queries (some message)).metered s.store.queries none = s := by
    rw [← hnone]
    rfl
  have hrun := run_metered hquiet s.store.queries
  have hqueries : ((s.metered s.store.queries (some message)).run steps).2.store.queries
      = s.store.queries := congrArg (fun r => r.2.store.queries) (hrun (some message))
  have hwithout := hrun none
  rw [hback] at hwithout
  rw [hwithout, disarmed, hqueries]

/-- What an armed failure does to a step that makes a query.  There is a field for each part of the
session, so that it can be seen that nothing else is touched. -/
structure Hit (s : Session) (message : String) (step : Step) : Prop where
  /-- The step fails with the failure. -/
  outcome : (s.step step).1 = step.failing message
  /-- One query is counted, and no failure is armed any more.  The tables and the counter of
  ids are as they were. -/
  store : (s.step step).2.store
    = { s.store with queries := s.store.queries + 1, armed := none }
  caches : (s.step step).2.caches = s.caches
  /-- Loaders from which the step does not fetch are as they were, with what waits on them. -/
  loaders : ∀ name, step.fetches name = false →
    (s.step step).2.loaders.get? name = s.loaders.get? name
  /-- What waited on a loader from which the step fetches is given the failure. -/
  waiters : ∀ name pin handle, step.fetches name = true → s.Waits name pin handle →
    (s.step step).2.handles.get? handle = some (.answered (.error (.fetch (.injected message))))
  /-- All other handles are as they were. -/
  handles : ∀ handle, (∀ name pin, step.fetches name = true → ¬s.Waits name pin handle) →
    (s.step step).2.handles.get? handle = s.handles.get? handle
  /-- A step that fetches from no loader comes to the same, when it is repeated, as if no
  failure had been armed. -/
  repeated : (∀ name, step.fetches name = false) →
    ((s.step step).2.step step).1 = (s.disarmed.step step).1
  /-- Whatever is resolved afterwards on a loader from which the step fetches, is resolved as if
  no failure had been armed. -/
  resolved : ∀ name identities, step.fetches name = true →
    ((s.step step).2.step (.resolveAll name identities)).1
        = .answer (.pinnedSlots (identities.map s.store.tables.resolve))
      ∧ (s.disarmed.step (.resolveAll name identities)).1
        = .answer (.pinnedSlots (identities.map s.store.tables.resolve))

/-- A step that fetches makes a query only if the loader is there. -/
theorem contains_of_cost {name : String} (hcost : s.cost step ≠ 0)
    (hfetches : step.fetches name = true) : s.loaders.contains name = true := by
  cases step with
  | dispatch n | resolveAll n identities =>
    obtain rfl := beq_iff_eq.1 hfetches
    rw [SortedMap.contains, Option.isSome_iff_ne_none]
    intro hl
    rw [cost, hl] at hcost
    exact hcost rfl
  | _ => cases hfetches

/-- A step that makes a query is hit by an armed failure.  What is known about the parts of the
session is put together here. -/
theorem hit_of_armed (hs : s.Sound) (hline : s.InLine) (harmed : s.store.armed = some message)
    (hcost : s.cost step ≠ 0) : s.Hit message step where
  outcome := outcome_of_armed harmed hcost
  store := store_step_of_cost hcost
  caches := caches_of_armed harmed hcost
  loaders _ := loaders_of_armed harmed hcost
  waiters _ _ _ := answered_of_armed hs harmed
  handles _ := handle_of_armed hs hline harmed hcost
  repeated hbatch := by
    have hagain : (s.disarmed.metered (s.store.queries + 1) none).step step = _ :=
      step_metered (.inl rfl)
    rw [step_of_armed harmed hcost hbatch]
    exact congrArg (fun r => r.1) hagain
  resolved name identities hfetches := by
    have hl := contains_of_cost hcost hfetches
    have hstore := store_step_of_cost hcost
    have hl' : (s.step step).2.loaders.contains name = true := by
      rw [contains_step (closes_of_fetches hfetches name), hl]
    have hs' : s.disarmed.Sound := ⟨hs.keyed, hs.below, hs.single⟩
    rw [outcome_resolveAll (sound_step hs step) (congrArg Store.armed hstore) hl',
      outcome_resolveAll hs' rfl hl, hstore]
    exact ⟨rfl, rfl⟩

/-- **An armed failure hits once.** It stays armed while steps are quiet.  The first step that makes
a query is hit by it, and no other step is.  Up to then the session goes as it would have gone if
the failure had not been armed. -/
theorem failure_hits_once {before : List Step} {message : String}
    (harmed : (after before).store.armed = some message) :
    (∀ later, Along Quiet (after before) later →
        (after (before ++ later)).store.armed = some message)
      ∧ (∀ step, ((after before).step step).2.store.queries ≠ (after before).store.queries →
        (after before).Hit message step)
      ∧ ∀ first later, before = first ++ .failNext message :: later →
        (after first).store.armed = none →
        Along Quiet (after (first ++ [.failNext message])) later →
        (after before).disarmed = after (first ++ later) := by
  refine ⟨fun later hquiet => ?_, fun step hqueries => ?_, ?_⟩
  · -- a session has its own meters
    have hrun := run_metered hquiet (after before).store.queries (after before).store.armed
    rw [after_append, ← harmed]
    exact congrArg (fun r => r.2.store.armed) hrun
  · refine hit_of_armed (sound_after before) (inLine_after before) harmed fun hcost => hqueries ?_
    rw [queries_step, hcost, Nat.add_zero]
  · rintro first later rfl hnone hquiet
    rw [after_append] at hquiet
    rw [after_append, run_cons, after_append]
    exact disarmed_run hnone hquiet

/-- A lookup that waits on a loader. -/
def waitingLookup : List Step := [.newLoader "l", .load "l" ⟨1, 2⟩ "h"]

/-- A failure that hits a dispatch. -/
theorem failure_hits_once_on_dispatch :
    ((after (waitingLookup ++ [.failNext "down"])).step (.dispatch "l")).1
        = .loadFailed (.fetch (.injected "down"))
      ∧ ((after (waitingLookup ++ [.failNext "down"])).step (.dispatch "l")).2.handles.get? "h"
        = some (.answered (.error (.fetch (.injected "down"))))
      ∧ (after (waitingLookup ++ [.failNext "down"])).disarmed = after waitingLookup := by
  have harmed : (after (waitingLookup ++ [.failNext "down"])).store.armed = some "down" := rfl
  obtain ⟨-, hhit, hcourse⟩ := failure_hits_once harmed
  have hdispatch := hhit (.dispatch "l") (by decide)
  have hwaits : (after (waitingLookup ++ [.failNext "down"])).Waits "l" ⟨1, 2⟩ "h" :=
    ⟨0, rfl, by decide⟩
  exact ⟨hdispatch.outcome, hdispatch.waiters "l" ⟨1, 2⟩ "h" rfl hwaits,
    hcourse waitingLookup [] rfl rfl trivial⟩

/-- Arming a failure makes no query, but a failure that was armed before does not stay armed:
the new one takes its place. -/
theorem failure_replaced :
    ¬∀ before message step, (after before).store.armed = some message →
      ((after before).step step).2.store.queries = (after before).store.queries →
      ((after before).step step).2.store.armed = some message := by
  intro hstays
  have hsame : some "b" = some "a" := hstays [.failNext "a"] "a" (.failNext "b") rfl rfl
  exact absurd hsame (by decide)

end Session

end DesignHistory
