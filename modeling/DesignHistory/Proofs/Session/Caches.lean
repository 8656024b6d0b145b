import Mathlib.Data.List.Induction
import DesignHistory.Proofs.Session.Run

/-!
# What caches hold

A cache has the events of the versions that were looked up in it with success since it
was made anew, whatever happened to the store and to other caches in between.

## Main definitions

* `Session.looksUp?`: the cache and the version of a step that looks events up.
* `Session.Holds`: the events of a version are in a cache.
* `Session.Loads`: a step looks a version up in a cache with success.
* `Session.Loaded`: a version was looked up in a cache with success since the cache was
  made anew.

## Main statements

* `Session.cache_step_cases`: what a step does to a cache.
* `Session.holds_step_iff`: what a cache holds after a step.
* `Session.holds_after_iff`: a cache holds what was looked up in it.
-/

namespace DesignHistory

/-! ### One look-up -/

namespace EventCache

/-- The events of a version are in a cache. -/
def Holds (c : EventCache) (id : VersionId) : Prop := (c.byVersion.get? id).isSome = true

theorem not_holds_new (id : VersionId) : ¬Holds {} id := by
  rw [Holds, SortedMap.get?_empty]
  exact Bool.false_ne_true

/-- A look-up that has success leaves the events in the cache, and no look-up removes any.  One that
fails leaves the cache as it was, so that it can be tried again. -/
theorem holds_eventsFor_iff {c : EventCache} {v : Version} {s : Store} {id : VersionId} :
    (c.eventsFor v s).cache.Holds id
      ↔ c.Holds id ∨ v.id = id ∧ ∃ events, (c.eventsFor v s).result = .ok events := by
  unfold eventsFor
  split
  · rename_i events hfound
    constructor
    · exact .inl
    · rintro (h | ⟨rfl, -⟩)
      · exact h
      · rw [Holds, hfound]
        rfl
  · cases hs : s.armed with
    | some message => simp [Store.query, hs]
    | none =>
      by_cases hid : id = v.id
      · simp [Store.query, hs, Holds, hid]
      · simp [Store.query, hs, Holds, SortedMap.get?_insert_of_ne _ _ hid, Ne.symm hid]

/-- A look-up makes a query exactly if the events are not in the cache. -/
theorem queries_eventsFor (c : EventCache) (v : Version) (s : Store) :
    (c.eventsFor v s).store.queries
      = s.queries + if (c.byVersion.get? v.id).isSome then 0 else 1 := by
  unfold eventsFor
  cases hfound : c.byVersion.get? v.id with
  | some events => rfl
  | none => cases hs : s.armed <;> simp [Store.query, hs]

end EventCache

namespace Session

variable {s : Session} {step : Step} {name : String} {v : Version} {id : VersionId}

/-- The cache and the version of a step that looks events up. -/
def looksUp? (s : Session) : Step → Option (String × Version)
  | .eventsFor name version | .eventFor name _ version => (s.version? version).map (name, ·)
  | _ => none

/-- The events of a version are in a cache. -/
def Holds (s : Session) (name : String) (id : VersionId) : Prop :=
  ∃ c, s.caches.get? name = some c ∧ c.Holds id

/-- A step looks a version up in a cache with success.  Whether it needs a query for that is left
open. -/
def Loads (s : Session) (step : Step) (name : String) (id : VersionId) : Prop :=
  ∃ v, s.looksUp? step = some (name, v) ∧ v.id = id ∧ ∃ a, (s.step step).1 = .answer a

/-! ### Steps that look events up -/

/-- A look-up in a cache that is there leaves what the cache leaves, and has success if
the cache has. -/
theorem step_of_looksUp {c : EventCache} (h : s.looksUp? step = some (name, v))
    (hc : s.caches.get? name = some c) :
    (s.step step).2.caches = s.caches.insert name (c.eventsFor v s.store).cache
      ∧ (s.step step).2.store = (c.eventsFor v s.store).store
      ∧ ((∃ a, (s.step step).1 = .answer a) ↔
        ∃ events, (c.eventsFor v s.store).result = .ok events) := by
  cases step with
  | eventsFor n version =>
    obtain ⟨v', hv, heq⟩ := Option.map_eq_some_iff.1 h
    cases heq
    simp only [step, hc, hv, eventsFor, true_and]
    cases (c.eventsFor v s.store).result <;>
      simp [Except.map, Except.mapError, Outcome.ofResult]
  | eventFor n designId version =>
    obtain ⟨v', hv, heq⟩ := Option.map_eq_some_iff.1 h
    cases heq
    simp only [step, hc, hv, eventsFor, true_and]
    cases (c.eventsFor v s.store).result <;>
      simp [Except.map, Except.mapError, Outcome.ofResult]
  | _ => cases h

/-- A look-up in a cache that is not there is refused. -/
theorem step_of_looksUp_of_none (h : s.looksUp? step = some (name, v))
    (hc : s.caches.get? name = none) : s.step step = (.refused, s) := by
  cases step with
  | eventsFor n version =>
    obtain ⟨v', hv, heq⟩ := Option.map_eq_some_iff.1 h
    cases heq
    simp only [step, hc]
  | eventFor n designId version =>
    obtain ⟨v', hv, heq⟩ := Option.map_eq_some_iff.1 h
    cases heq
    simp only [step, hc]
  | _ => cases h

@[simp]
theorem caches_withoutLoader (s : Session) (n : String) :
    (s.withoutLoader n).caches = s.caches := by
  unfold withoutLoader
  split <;> rfl

@[simp]
theorem caches_schedule (s : Session) (n : String) (l : Loader) (pin : Option Pin)
    (handle : String) : (s.schedule n l pin handle).1.caches = s.caches := by
  cases pin <;> rfl

/-- A step that looks no events up and makes no cache anew leaves the caches alone. -/
theorem caches_step_of_none (h : s.looksUp? step = none) (hnew : step ≠ .newCache name) :
    (s.step step).2.caches.get? name = s.caches.get? name := by
  cases step with
  | newCache n =>
    have hne : name ≠ n := by
      rintro rfl
      exact hnew rfl
    exact SortedMap.get?_insert_of_ne _ _ hne
  | eventsFor n version =>
    have hv := Option.map_eq_none_iff.1 h
    simp [step, hv]
  | eventFor n designId version =>
    have hv := Option.map_eq_none_iff.1 h
    simp [step, hv]
  | _ => simp only [step] <;> (repeat' split) <;> simp [dispatch, deliver]

/-! ### What a cache holds -/

theorem get?_caches_newCache (s : Session) (name : String) :
    (s.step (.newCache name)).2.caches.get? name = some {} :=
  SortedMap.get?_insert_self _ _ _

/-- A step makes a cache anew, looks a version up in it, or leaves it as it was.  All invariants of
caches are shown from these three cases. -/
theorem cache_step_cases (s : Session) (step : Step) (name : String) :
    (step = .newCache name ∧ (s.step step).2.caches.get? name = some {})
      ∨ (∃ c v, s.caches.get? name = some c ∧ s.looksUp? step = some (name, v)
        ∧ (s.step step).2.caches.get? name = some (c.eventsFor v s.store).cache)
      ∨ step ≠ .newCache name ∧ (∀ id, ¬s.Loads step name id)
        ∧ (s.step step).2.caches.get? name = s.caches.get? name := by
  by_cases hnew : step = .newCache name
  · subst hnew
    exact .inl ⟨rfl, s.get?_caches_newCache name⟩
  right
  cases hlook : s.looksUp? step with
  | none =>
    refine .inr ⟨hnew, ?_, caches_step_of_none hlook hnew⟩
    rintro id ⟨v, hv, -⟩
    cases hlook.symm.trans hv
  | some target =>
    obtain ⟨n, v⟩ := target
    cases hc : s.caches.get? n with
    | none =>
      have hrefused := step_of_looksUp_of_none hlook hc
      refine .inr ⟨hnew, ?_, by rw [hrefused]⟩
      rintro id ⟨-, -, -, a, ha⟩
      rw [hrefused] at ha
      cases ha
    | some c =>
      obtain ⟨hcaches, -, -⟩ := step_of_looksUp hlook hc
      by_cases hn : name = n
      · subst hn
        exact .inl ⟨c, v, hc, rfl, by rw [hcaches, SortedMap.get?_insert_self]⟩
      · refine .inr ⟨hnew, ?_, by rw [hcaches, SortedMap.get?_insert_of_ne _ _ hn]⟩
        rintro id ⟨w, hw, -⟩
        cases hlook.symm.trans hw
        exact hn rfl

/-- A step that makes a cache anew leaves nothing in it. -/
theorem not_holds_newCache (s : Session) (name : String) (id : VersionId) :
    ¬(s.step (.newCache name)).2.Holds name id := by
  rintro ⟨c, hc, hheld⟩
  cases hc.symm.trans (s.get?_caches_newCache name)
  exact EventCache.not_holds_new id hheld

/-- A step keeps what a cache holds and adds what it looks up in it with success, unless it
makes the cache anew. -/
theorem holds_step_iff :
    (s.step step).2.Holds name id ↔
      step ≠ .newCache name ∧ (s.Holds name id ∨ s.Loads step name id) := by
  rcases s.cache_step_cases step name with
    ⟨rfl, -⟩ | ⟨c, v, hc, hlook, hlooked⟩ | ⟨hnew, hloads, hkept⟩
  · exact iff_of_false (s.not_holds_newCache name id) fun h => h.1 rfl
  · have hnew : step ≠ .newCache name := by
      rintro rfl
      cases hlook
    have hloads : s.Loads step name id
        ↔ v.id = id ∧ ∃ events, (c.eventsFor v s.store).result = .ok events := by
      simp [Loads, hlook, (step_of_looksUp hlook hc).2.2]
    rw [and_iff_right hnew, hloads, Holds, Holds, hlooked]
    simp [hc, EventCache.holds_eventsFor_iff]
  · rw [and_iff_right hnew, or_iff_left (hloads id), Holds, hkept, Holds]

/-! ### Histories -/

/-- A version was looked up in a cache with success at some step, and the cache was not made anew
since.  It is a property of the history, and what the cache holds is compared with it. -/
def Loaded (steps : List Step) (name : String) (id : VersionId) : Prop :=
  ∃ first step later, steps = first ++ step :: later
    ∧ (after first).Loads step name id ∧ .newCache name ∉ later

theorem not_loaded_nil (name : String) (id : VersionId) : ¬Loaded [] name id := by
  rintro ⟨first, step, later, hsteps, -⟩
  exact absurd hsteps (by simp)

/-- A step that looks a version up makes no cache anew. -/
theorem Loads.ne_newCache (h : s.Loads step name id) (cache : String) :
    step ≠ .newCache cache := by
  rintro rfl
  obtain ⟨v, hv, -⟩ := h
  cases hv

/-- What a step adds to the versions that were looked up in a cache. -/
theorem loaded_append_iff {steps : List Step} :
    Loaded (steps ++ [step]) name id ↔
      step ≠ .newCache name ∧ (Loaded steps name id ∨ (after steps).Loads step name id) := by
  simp only [Loaded, exists_since_snoc_iff]
  constructor
  · rintro ⟨first, ⟨rfl, hloads⟩ | ⟨hnew, hloaded⟩⟩
    · exact ⟨hloads.ne_newCache name, .inr hloads⟩
    · exact ⟨hnew, .inl ⟨first, hloaded⟩⟩
  · rintro ⟨hnew, ⟨first, hloaded⟩ | hloads⟩
    · exact ⟨first, .inr ⟨hnew, hloaded⟩⟩
    · exact ⟨steps, .inl ⟨rfl, hloads⟩⟩

/-- **A cache holds the versions that were looked up in it with success since it was made anew.** -/
theorem holds_after_iff (steps : List Step) (name : String) (id : VersionId) :
    (after steps).Holds name id ↔ Loaded steps name id := by
  induction steps using List.reverseRecOn with
  | nil =>
    refine iff_of_false ?_ (not_loaded_nil name id)
    rintro ⟨c, hc, -⟩
    cases hc
  | append_singleton steps step ih =>
    rw [loaded_append_iff, ← ih, after_append, run_cons, run_nil]
    exact holds_step_iff

end Session

end DesignHistory
