import DesignHistory.Proofs.Session.Caches
import DesignHistory.Proofs.Store.Growth

/-!
# Caches that are never out of date

A cache keeps what the store said about a version at the moment of the first look-up with
success, while the store goes on.  It need not look again, because no action is added to a
version after its commit.  So it does not matter what happened between that moment and a later
look-up: commits, failed look-ups, and look-ups of other versions.

The argument fails for a version that is looked up before it is committed, which can happen to a
version that is given in full; a cache keeps then that nothing happened in it.

## Main definitions

* `Session.cached?`: the events of a version that a cache has at hand.
* `Session.UpToDate`: what a cache has of a version is what the store would say now.
* `Session.Fetches`, `Session.FetchedAt`: a look-up with success that makes a query, and when
  it was.

## Main statements

* `Session.cached?_step`: what a step does to the events at hand.
* `Session.upToDate_after`: a cache that has nothing of a version at its commit is up to date
  about it ever after.
* `Session.existsUnique_fetchedAt`: what is in a cache was fetched once.
* `Session.cache_never_stale`: what a cache answers, and how much it holds.
-/

namespace DesignHistory

/-! ### One look-up -/

namespace EventCache

/-- A look-up leaves what a cache has of a version, or it takes it from the tables. -/
theorem get?_eventsFor (c : EventCache) (v : Version) (s : Store) (id : VersionId) :
    (c.eventsFor v s).cache.byVersion.get? id = c.byVersion.get? id
      ∨ (c.eventsFor v s).cache.byVersion.get? id = some (s.tables.eventsOfVersion id) := by
  unfold eventsFor
  cases hfound : c.byVersion.get? v.id with
  | some events => exact .inl rfl
  | none =>
    cases hs : s.armed with
    | some message => simp [Store.query, hs]
    | none =>
      by_cases hid : id = v.id
      · simp [Store.query, hs, hid]
      · simp [Store.query, hs, SortedMap.get?_insert_of_ne _ _ hid]

/-- A look-up has success with what the cache has, or with what is in the tables if no failure
is armed. -/
theorem result_eventsFor_eq_ok_iff {c : EventCache} {v : Version} {s : Store}
    {events : SortedMap DesignId Event} :
    (c.eventsFor v s).result = .ok events ↔
      c.byVersion.get? v.id = some events
        ∨ c.byVersion.get? v.id = none ∧ s.armed = none
          ∧ events = s.tables.eventsOfVersion v.id := by
  unfold eventsFor
  cases hfound : c.byVersion.get? v.id with
  | some held => simp
  | none => cases hs : s.armed <;> simp [Store.query, hs, eq_comm]

end EventCache

namespace Session

variable {s : Session} {step : Step} {name : String} {v : Version} {id : VersionId}

/-! ### What a cache has at hand -/

/-- The events of a version that a cache has at hand. -/
def cached? (s : Session) (name : String) (id : VersionId) : Option (SortedMap DesignId Event) :=
  (s.caches.get? name).bind fun c => c.byVersion.get? id

theorem cached?_of_get? {c : EventCache} (hc : s.caches.get? name = some c) (id : VersionId) :
    s.cached? name id = c.byVersion.get? id := by
  rw [cached?, hc, Option.bind_some]

theorem holds_iff_isSome_cached? : s.Holds name id ↔ (s.cached? name id).isSome = true := by
  cases hc : s.caches.get? name <;> simp [Holds, EventCache.Holds, cached?, hc]

/-- A step takes the events of a version away, leaves them as they are, or has them from the tables.
A cache never gets events from anywhere else, in particular not from a caller. -/
theorem cached?_step (s : Session) (step : Step) (name : String) (id : VersionId) :
    (s.step step).2.cached? name id = none
      ∨ (s.step step).2.cached? name id = s.cached? name id
      ∨ (s.step step).2.cached? name id = some (s.store.tables.eventsOfVersion id) := by
  rcases s.cache_step_cases step name with ⟨-, hnew⟩ | ⟨c, v, hc, -, hlooked⟩ | ⟨-, -, hkept⟩
  · exact .inl (cached?_of_get? hnew id)
  · rw [cached?_of_get? hlooked, cached?_of_get? hc]
    exact .inr (c.get?_eventsFor v s.store id)
  · exact .inr (.inl (by rw [cached?, hkept, cached?]))

/-! ### Being up to date -/

/-- What a cache has of a version is what the store would say now.  A cache that has nothing is up
to date as well. -/
def UpToDate (s : Session) (name : String) (id : VersionId) : Prop :=
  ∀ events ∈ s.cached? name id, events = s.store.tables.eventsOfVersion id

theorem upToDate_of_not_holds (h : ¬s.Holds name id) : s.UpToDate name id := by
  intro events hevents
  rw [holds_iff_isSome_cached?, hevents] at h
  exact absurd rfl h

theorem Continues.eventsOfVersion_eq {first : Store} (h : s.Continues first)
    (hid : id ≤ first.lastId) :
    s.store.tables.eventsOfVersion id = first.tables.eventsOfVersion id := by
  rw [Tables.eventsOfVersion, h.tables.actionsOfVersion_eq hid, Tables.eventsOfVersion]

/-- A step leaves a cache up to date about a version below an earlier last id. -/
theorem upToDate_step {first : Store} (hfinds : s.FindsId step) (hid : id ≤ first.lastId)
    (hs : s.Continues first) (hup : s.UpToDate name id) :
    (s.step step).2.UpToDate name id := by
  intro events hevents
  -- the tables say the same before and after the step, and at the moment the id is bounded at
  rw [(continues_step hfinds hs).eventsOfVersion_eq hid, ← hs.eventsOfVersion_eq hid]
  rcases s.cached?_step step name id with hnone | hkept | hloaded
  · cases hevents.symm.trans hnone
  · exact hup events (hkept ▸ hevents)
  · exact Option.some.inj (hevents.symm.trans hloaded)

/-- A cache that has nothing of a version below the last id is up to date about it ever
after. -/
theorem upToDate_after {first rest : List Step} (hids : IdsSuffice (first ++ rest))
    (hid : id ≤ (after first).store.lastId) (hnone : ¬(after first).Holds name id) :
    (after (first ++ rest)).UpToDate name id := by
  obtain ⟨hfirst, hrest⟩ := along_append.1 hids
  have hstart : (after first).Continues (after first).store :=
    ⟨bounded_after hfirst, Int64.le_refl _, .refl _ _⟩
  rw [after_append]
  exact (run_induction
    (P := fun s' => s'.Continues (after first).store ∧ s'.UpToDate name id)
    (fun _ _ hfinds h => ⟨continues_step hfinds h.1, upToDate_step hfinds hid h.1 h.2⟩)
    ⟨hstart, upToDate_of_not_holds hnone⟩ hrest).2

/-- A cache that had nothing of a version when it was committed, or that was made anew since, is up
to date about it.  The condition cannot be left out: what is looked up under an id before there is a
version of it would stay. -/
theorem upToDate_of_commit {before later : List Step} {issue : Given Issue}
    {events : List (DesignId × Event)} {createdAt : Instant}
    (hids : IdsSuffice (before ++ [.commitVersion issue events createdAt] ++ later))
    (hcommit : ((after before).step (.commitVersion issue events createdAt)).1
      = .answer (.version (some v)))
    (hfirst : ¬Loaded before name v.id ∨ .newCache name ∈ later) :
    (after (before ++ [.commitVersion issue events createdAt] ++ later)).UpToDate name v.id := by
  have hlast := (stored_at_commit hcommit).1
  rcases hfirst with hunloaded | hrenewed
  · refine upToDate_after hids (hlast ▸ Int64.le_refl _) ?_
    rw [holds_after_iff, loaded_append_iff]
    rintro ⟨-, hloaded | ⟨w, hw, -⟩⟩
    · exact hunloaded hloaded
    · cases hw
  · -- from the last renewal on, the cache is as at the start
    obtain ⟨between, rest, rfl⟩ := List.append_of_mem hrenewed
    rw [← List.append_assoc, List.append_cons] at hids ⊢
    have hbefore := (along_append.1 hids).1
    rw [List.append_assoc] at hbefore
    refine upToDate_after hids ?_ ?_
    · rw [List.append_assoc]
      exact hlast ▸ (continues_after hbefore).lastId
    · rw [after_append, run_cons, run_nil]
      exact not_holds_newCache _ name v.id

/-! ### What a look-up answers -/

/-- What becomes of a look-up of events, when the answer is read from them. -/
def lookup (s : Session) (name : String) (v : Version)
    (read : SortedMap DesignId Event → Answer) : Outcome :=
  match s.caches.get? name with
  | none => .refused
  | some c => .ofResult (((c.eventsFor v s.store).result.map read).mapError .store)

theorem outcome_eventsFor {given : Given Version} (hv : s.version? given = some v) :
    (s.step (.eventsFor name given)).1 = s.lookup name v .events := by
  cases hc : s.caches.get? name <;> simp [step, lookup, eventsFor, hc, hv]

/-- The event of a design is found among those of the version. -/
theorem outcome_eventFor {given : Given Version} (hv : s.version? given = some v)
    (designId : DesignId) :
    (s.step (.eventFor name designId given)).1
      = s.lookup name v fun events => .event (events.get? designId) := by
  cases hc : s.caches.get? name <;> simp [step, lookup, eventsFor, hc, hv]

/-- What is read from a result is an answer if the result is one. -/
theorem ofResult_map_eq_answer_iff {r : Except StoreError (SortedMap DesignId Event)}
    {read : SortedMap DesignId Event → Answer} {a : Answer} :
    Outcome.ofResult ((r.map read).mapError .store) = .answer a
      ↔ ∃ events, r = .ok events ∧ a = read events := by
  cases r <;> simp [Except.map, Except.mapError, Outcome.ofResult, eq_comm]

/-- A cache that is there and up to date answers with what the store would say now, if it holds the
version or no failure is armed.  Both ways to an answer are in the condition, so it is an
equivalence. -/
theorem lookup_eq_answer_iff (hup : s.UpToDate name v.id)
    {read : SortedMap DesignId Event → Answer} {a : Answer} :
    s.lookup name v read = .answer a ↔
      a = read (s.store.tables.eventsOfVersion v.id)
        ∧ (s.caches.get? name).isSome = true ∧ (s.Holds name v.id ∨ s.store.armed = none) := by
  unfold lookup
  cases hc : s.caches.get? name with
  | none => simp
  | some c =>
    have hcached := cached?_of_get? hc v.id
    rw [holds_iff_isSome_cached?, hcached]
    simp only [ofResult_map_eq_answer_iff, EventCache.result_eventsFor_eq_ok_iff]
    cases hheld : c.byVersion.get? v.id with
    | none => simp [and_comm]
    | some events =>
      have hevents : events = s.store.tables.eventsOfVersion v.id :=
        hup events (hcached.trans hheld)
      simp [hevents]

/-! ### Caches that are there -/

/-- A step leaves a cache that was there, and makes one. -/
theorem isSome_cache_step_iff :
    ((s.step step).2.caches.get? name).isSome = true
      ↔ step = .newCache name ∨ (s.caches.get? name).isSome = true := by
  rcases s.cache_step_cases step name with
    ⟨rfl, hself⟩ | ⟨c, v, hc, -, hlooked⟩ | ⟨hnew, -, hkept⟩
  · simp [hself]
  · simp [hlooked, hc]
  · rw [hkept, or_iff_right hnew]

theorem isSome_cache_after_iff (steps : List Step) (name : String) :
    ((after steps).caches.get? name).isSome = true ↔ .newCache name ∈ steps := by
  induction steps using List.reverseRecOn with
  | nil => exact iff_of_false Bool.false_ne_true List.not_mem_nil
  | append_singleton steps step ih =>
    rw [after_append, run_cons, run_nil, isSome_cache_step_iff, ih, List.mem_append,
      List.mem_singleton, or_comm, eq_comm]

/-! ### Queries -/

/-- A step looks a version up in a cache with success, and makes a query for it. -/
def Fetches (s : Session) (step : Step) (name : String) (id : VersionId) : Prop :=
  s.Loads step name id ∧ (s.step step).2.store.queries = s.store.queries + 1

/-- A look-up with success makes a query exactly if the version is not held yet. -/
theorem fetches_iff : s.Fetches step name id ↔ s.Loads step name id ∧ ¬s.Holds name id := by
  refine and_congr_right fun hloads => ?_
  obtain ⟨v, hlook, rfl, a, ha⟩ := hloads
  cases hc : s.caches.get? name with
  | none =>
    rw [step_of_looksUp_of_none hlook hc] at ha
    cases ha
  | some c =>
    rw [(step_of_looksUp hlook hc).2.1, EventCache.queries_eventsFor, holds_iff_isSome_cached?,
      cached?_of_get? hc]
    cases c.byVersion.get? v.id <;> simp

/-- A version was fetched for a cache right after some steps, and the cache was not made anew
since. -/
def FetchedAt (steps : List Step) (name : String) (id : VersionId) (first : List Step) : Prop :=
  ∃ step later, steps = first ++ step :: later
    ∧ (after first).Fetches step name id ∧ .newCache name ∉ later

theorem FetchedAt.loaded {steps first : List Step} (h : FetchedAt steps name id first) :
    Loaded steps name id := by
  obtain ⟨step, later, hsteps, hfetches, hkept⟩ := h
  exact ⟨first, step, later, hsteps, hfetches.1, hkept⟩

/-- When a version was fetched, after one more step. -/
theorem fetchedAt_append_iff {steps first : List Step} :
    FetchedAt (steps ++ [step]) name id first ↔
      (first = steps ∧ (after steps).Fetches step name id)
        ∨ step ≠ .newCache name ∧ FetchedAt steps name id first := by
  rw [FetchedAt, exists_since_snoc_iff, FetchedAt]
  refine or_congr_left (and_congr_right fun hfirst => ?_)
  rw [hfirst]

/-- Whatever a cache holds was fetched for it exactly once.  Later look-ups of the version are
answered from the cache. -/
theorem existsUnique_fetchedAt {steps : List Step} (hloaded : Loaded steps name id) :
    ∃! first, FetchedAt steps name id first := by
  induction steps using List.reverseRecOn with
  | nil => exact absurd hloaded (not_loaded_nil name id)
  | append_singleton steps step ih =>
    obtain ⟨hnew, hcases⟩ := loaded_append_iff.1 hloaded
    have hwhen : ∀ first, FetchedAt (steps ++ [step]) name id first ↔
        (first = steps ∧ (after steps).Loads step name id ∧ ¬Loaded steps name id)
          ∨ FetchedAt steps name id first := by
      intro first
      rw [fetchedAt_append_iff, fetches_iff, holds_after_iff, and_iff_right hnew]
    by_cases hearlier : Loaded steps name id
    · -- the version is held already, so that the step makes no query
      simpa [hwhen, hearlier] using ih hearlier
    · have hloads := hcases.resolve_left hearlier
      have hnever : ∀ first, ¬FetchedAt steps name id first := fun _ h => hearlier h.loaded
      simp [hwhen, hearlier, hloads, hnever]

/-! ### Coherence -/

/-- **A cache never goes stale.** One that had not loaded a version before its commit answers at
every later moment with what the tables say about the version at that moment.  It has an answer
exactly if it was made, and it loaded the version before or finds no failure armed.  The size of a
cache is the number of different versions that it loaded, and each of them was fetched with exactly
one query. -/
theorem cache_never_stale {steps : List Step} (hids : IdsSuffice steps) (name : String) :
    (∀ before issue events createdAt later v,
        steps = before ++ .commitVersion issue events createdAt :: later →
        ((after before).step (.commitVersion issue events createdAt)).1
          = .answer (.version (some v)) →
        (¬Loaded before name v.id ∨ .newCache name ∈ later) →
        ∀ given w, (after steps).version? given = some w → w.id = v.id →
          (∀ a, ((after steps).step (.eventsFor name given)).1 = .answer a ↔
            a = .events ((after steps).store.tables.eventsOfVersion v.id)
              ∧ .newCache name ∈ steps
              ∧ (Loaded steps name v.id ∨ (after steps).store.armed = none))
          ∧ ∀ designId a, ((after steps).step (.eventFor name designId given)).1 = .answer a ↔
            a = .event (((after steps).store.tables.eventsOfVersion v.id).get? designId)
              ∧ .newCache name ∈ steps
              ∧ (Loaded steps name v.id ∨ (after steps).store.armed = none))
      ∧ (.newCache name ∈ steps → ∃ ids : List VersionId, ids.Nodup
        ∧ ((after steps).step (.cacheSize name)).1 = .answer (.number ids.length)
        ∧ (∀ id, id ∈ ids ↔ Loaded steps name id)
        ∧ ∀ id ∈ ids, ∃! first, FetchedAt steps name id first) := by
  constructor
  · intro before issue events createdAt later v hsteps hcommit hfirst given w hw hid
    rw [List.append_cons] at hsteps
    have hup : (after steps).UpToDate name w.id := by
      subst hsteps
      exact hid ▸ upToDate_of_commit hids hcommit hfirst
    rw [outcome_eventsFor hw, ← hid, ← isSome_cache_after_iff, ← holds_after_iff]
    refine ⟨fun a => lookup_eq_answer_iff hup, fun designId a => ?_⟩
    rw [outcome_eventFor hw]
    exact lookup_eq_answer_iff hup
  · intro hmade
    obtain ⟨c, hc⟩ := Option.isSome_iff_exists.1 ((isSome_cache_after_iff steps name).2 hmade)
    have hmem : ∀ id, id ∈ c.byVersion.keys ↔ Loaded steps name id := by
      intro id
      rw [SortedMap.mem_keys_iff, ← cached?_of_get? hc, ← holds_iff_isSome_cached?,
        holds_after_iff]
    have hsize : c.byVersion.keys.length = c.size := List.length_map _
    refine ⟨c.byVersion.keys, c.byVersion.nodup_keys, ?_, hmem, fun id hmem' => ?_⟩
    · simp only [step, hc, hsize]
    · exact existsUnique_fetchedAt ((hmem id).1 hmem')

/-- A version that is looked up in vain when its store fails, and again after another commit. -/
def lookedUpTwice : List Step :=
  [.insertIssue 7 "a", .insertDesign (.stored 1) "x", .newCache "c",
    .commitVersion (.stored 1) [(2, .creation)] default, .failNext "lost",
    .eventsFor "c" (.stored 3), .commitVersion (.stored 1) [(2, .deletion)] default,
    .eventFor "c" 2 (.stored 3), .failNext "lost again"]

/-- The version is at hand with its creation although the store fails, and the second look-up is
the only one that fetched it. -/
theorem cache_never_stale_lookedUpTwice :
    ((after lookedUpTwice).step (.eventFor "c" 2 (.stored 3))).1
        = .answer (.event (some .creation))
      ∧ ∃! first, FetchedAt lookedUpTwice "c" 3 first := by
  have hids : IdsSuffice lookedUpTwice := idsSuffice_of_countP (by decide)
  have hloaded : Loaded lookedUpTwice "c" 3 := (holds_after_iff _ _ _).1 ⟨_, rfl, rfl⟩
  have hmade : .newCache "c" ∈ lookedUpTwice := by simp [lookedUpTwice]
  obtain ⟨hanswers, hcount⟩ := cache_never_stale hids "c"
  constructor
  · have hunloaded : ¬Loaded (lookedUpTwice.take 3) "c" 3 := by
      rw [← holds_after_iff]
      rintro ⟨c, hc, hheld⟩
      cases hc
      cases hheld
    have hw : (after lookedUpTwice).version? (.stored 3)
        = some ⟨3, 1, Version.computeSha 1 none [⟨2, 3, .creation⟩], none, default⟩ := rfl
    obtain ⟨-, hevent⟩ := hanswers (lookedUpTwice.take 3) _ _ _ _ _ rfl rfl (.inl hunloaded) _ _
      hw rfl
    exact (hevent 2 _).2 ⟨rfl, hmade, .inl hloaded⟩
  · obtain ⟨ids, -, -, hmem, honce⟩ := hcount hmade
    exact honce 3 ((hmem 3).2 hloaded)

end Session

end DesignHistory
