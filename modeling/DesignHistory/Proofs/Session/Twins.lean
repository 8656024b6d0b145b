import DesignHistory.Proofs.Session.Queries

/-!
# Sessions that differ in their meters

A store has two meters that say nothing about its records: how many queries it has answered,
and which failure is armed for the next one.  Two sessions that differ in nothing else take
every step alike, as long as they have the same failure armed or the step makes no query.  So
what a step does to the meters, and that it does not read them, can be said in one equation.

## Main definitions

* `Session.metered`: a session with other meters.
* `Step.arms?`: the failure that a step arms.
* `Session.leavesArmed`: the failure that is armed after a step.

## Main statements

* `Session.step_metered`: a step in a session with other meters.
* `Session.armed_step`: what a step does to the armed failure.
-/

namespace DesignHistory

/-! ### Stores -/

namespace Store

/-- The same records with other meters. -/
def metered (s : Store) (queries : Nat) (armed : Option String) : Store := { s with queries, armed }

/-- A query is answered alike if the same failure is armed. -/
theorem query_metered {α : Type} (s : Store) (n : Nat) (read : Tables → α) :
    (s.metered n s.armed).query read
      = ((s.query read).1, (s.query read).2.metered (n + 1) none) := by
  unfold query metered
  cases s.armed <;> rfl

end Store

/-- The armed failure that is left after some queries: none, if there was any query. -/
def armedAfter (cost : Nat) (armed : Option String) : Option String :=
  if cost = 0 then armed else none

/-- An inquiry goes alike if the same failure is armed or it makes no query. -/
theorem Inquiry.run_metered {α : Type} {q : Inquiry α} {s : Store} {n : Nat}
    {armed : Option String} (h : armed = s.armed ∨ q.cost = 0) :
    q.run (s.metered n armed)
      = ((q.run s).1, (q.run s).2.metered (n + q.cost) (armedAfter q.cost armed)) := by
  cases q with
  | settled result => rfl
  | asks read =>
    obtain rfl := h.resolve_right Nat.one_ne_zero
    rw [run, Store.query_metered]
    rfl

/-- A dispatch goes alike if the same failure is armed or nothing waits. -/
theorem Loader.dispatch_metered {l : Loader} {s : Store} {n : Nat} {armed : Option String}
    (h : armed = s.armed ∨ l.pending.cost = 0) :
    l.dispatch (s.metered n armed) = { l.dispatch s with
      store := (l.dispatch s).store.metered (n + l.pending.cost)
        (armedAfter l.pending.cost armed) } := by
  unfold dispatch Batch.cost at *
  simp only [take] at *
  split
  · rfl
  · rename_i hwaits
    rw [if_neg hwaits] at h
    obtain rfl := h.resolve_right Nat.one_ne_zero
    simp only [Store.query_metered]
    rfl

/-- A look-up goes alike if the same failure is armed or the version was loaded. -/
theorem EventCache.eventsFor_metered {c : EventCache} {v : Version} {s : Store} {n : Nat}
    {armed : Option String}
    (h : armed = s.armed ∨ (if (c.byVersion.get? v.id).isSome then 0 else 1) = 0) :
    c.eventsFor v (s.metered n armed) = { c.eventsFor v s with
      store := (c.eventsFor v s).store.metered
        (n + if (c.byVersion.get? v.id).isSome then 0 else 1)
        (armedAfter (if (c.byVersion.get? v.id).isSome then 0 else 1) armed) } := by
  unfold eventsFor
  cases hfound : c.byVersion.get? v.id with
  | some events => rfl
  | none =>
    rw [hfound] at h
    obtain rfl := h.resolve_right Nat.one_ne_zero
    simp only [Store.query_metered]
    rcases s.query fun t => t.eventsOfVersion v.id with ⟨_ | _, _⟩ <;> rfl

/-! ### Steps -/

/-- The failure that a step arms. -/
def Step.arms? : Step → Option String
  | .failNext message => some message
  | _ => none

namespace Session

/-- The same session with other meters.  What is neither the count of queries nor the armed failure
is the same, so that two such sessions can be run side by side. -/
def metered (s : Session) (queries : Nat) (armed : Option String) : Session :=
  { s with store := s.store.metered queries armed }

@[simp]
theorem store_metered (s : Session) (n : Nat) (armed : Option String) :
    (s.metered n armed).store = s.store.metered n armed := rfl

@[simp]
theorem loaders_metered (s : Session) (n : Nat) (armed : Option String) :
    (s.metered n armed).loaders = s.loaders := rfl

@[simp]
theorem handles_metered (s : Session) (n : Nat) (armed : Option String) :
    (s.metered n armed).handles = s.handles := rfl

@[simp]
theorem caches_metered (s : Session) (n : Nat) (armed : Option String) :
    (s.metered n armed).caches = s.caches := rfl

@[simp]
theorem indexes_metered (s : Session) (n : Nat) (armed : Option String) :
    (s.metered n armed).indexes = s.indexes := rfl

@[simp]
theorem nextTicket_metered (s : Session) (n : Nat) (armed : Option String) :
    (s.metered n armed).nextTicket = s.nextTicket := rfl

theorem withoutLoader_metered (s : Session) (n : Nat) (armed : Option String) (name : String) :
    (s.metered n armed).withoutLoader name = (s.withoutLoader name).metered n armed := by
  unfold withoutLoader
  rw [loaders_metered]
  cases s.loaders.get? name <;> rfl

/-- The failure that is armed after a step. -/
def leavesArmed (s : Session) (step : Step) (armed : Option String) : Option String :=
  step.arms?.or (armedAfter (s.cost step) armed)

/-- A step goes alike in two sessions that differ in their meters, if the same failure is armed in
both or the step makes no query.  Only what makes a query looks at the armed failure. -/
theorem step_metered {s : Session} {step : Step} {n : Nat} {armed : Option String}
    (h : armed = s.store.armed ∨ s.cost step = 0) :
    (s.metered n armed).step step = ((s.step step).1,
      (s.step step).2.metered (n + s.cost step) (s.leavesArmed step armed)) := by
  cases step with
  | insertIssue projectId title => rfl
  | insertDesign given filename =>
    have hgiven : (s.metered n armed).issue? given = s.issue? given := rfl
    simp only [step, hgiven]
    cases s.issue? given <;> rfl
  | commitVersion given events createdAt =>
    have hgiven : (s.metered n armed).issue? given = s.issue? given := rfl
    simp only [step, hgiven]
    cases s.issue? given <;> rfl
  | failNext message => rfl
  | ask question =>
    have hresolve : question.resolve? (s.metered n armed).design? (s.metered n armed).version?
        = question.resolve? s.design? s.version? := rfl
    simp only [step, hresolve, cost, leavesArmed] at *
    cases hresolved : question.resolve? s.design? s.version? with
    | none => rfl
    | some resolved =>
      rw [hresolved] at h
      have hrun := resolved.inquiry.run_metered (s := s.store) (n := n) h
      simp only [store_metered, hrun]
      rfl
  | newLoader name =>
    simp only [step, withoutLoader_metered]
    rfl
  | dropLoader name =>
    simp only [step, withoutLoader_metered]
    rfl
  | load name pin handle =>
    simp only [step, loaders_metered]
    cases s.loaders.get? name <;> rfl
  | loadIdentity name identity handle =>
    simp only [step, loaders_metered]
    cases s.loaders.get? name with
    | none => rfl
    | some l => cases hpin : Pin.decode? identity <;> rfl
  | dispatch name =>
    simp only [step, loaders_metered, cost, leavesArmed] at *
    cases hl : s.loaders.get? name with
    | none => rfl
    | some l =>
      rw [hl] at h
      simp only [dispatch, store_metered, Loader.dispatch_metered h]
      rfl
  | loaderState name =>
    simp only [step, loaders_metered]
    cases s.loaders.get? name <;> rfl
  | resolveAll name identities =>
    simp only [step, loaders_metered, cost, leavesArmed] at *
    cases hl : s.loaders.get? name with
    | none => rfl
    | some l =>
      rw [hl] at h
      simp only [dispatch, store_metered, nextTicket_metered, Loader.dispatch_metered h]
      rfl
  | poll handle =>
    simp only [step, handles_metered]
    rcases s.handles.get? handle with _ | _ | _ <;> rfl
  | dropHandle handle => rfl
  | newCache name => rfl
  | eventsFor name version | eventFor name designId version =>
    have hgiven : (s.metered n armed).version? version = s.version? version := rfl
    simp only [step, caches_metered, hgiven, cost, leavesArmed] at *
    cases hc : s.caches.get? name with
    | none => rfl
    | some c =>
      cases hv : s.version? version with
      | none => rfl
      | some v =>
        rw [hc, hv] at h
        simp only [eventsFor, store_metered, EventCache.eventsFor_metered h]
        rfl
  | cacheSize name =>
    simp only [step, caches_metered]
    cases s.caches.get? name <;> rfl
  | resolveIndex name references =>
    have hrun := (ReferenceIndex.resolve references).run_metered (s := s.store) (n := n) h
    simp only [step, store_metered, hrun]
    rcases (ReferenceIndex.resolve references).run s.store with ⟨_ | _, _⟩ <;> rfl
  | indexGet name projectId issueId filename =>
    simp only [step, indexes_metered]
    cases s.indexes.get? name <;> rfl
  | indexFind name reference =>
    simp only [step, indexes_metered]
    cases s.indexes.get? name <;> rfl

/-- A step leaves armed what it arms, or what was armed if it makes no query. -/
theorem armed_step (s : Session) (step : Step) :
    (s.step step).2.store.armed = s.leavesArmed step s.store.armed := by
  -- a session has its own meters
  have h : (s.metered s.store.queries s.store.armed).step step = _ := step_metered (.inl rfl)
  exact congrArg (fun r => r.2.store.armed) h

end Session

end DesignHistory
