import Mathlib.Data.Finset.Card
import DesignHistory.Proofs.Session.Lookups

/-!
# The life of a batch

Between the ends of two batches of a loader the pins asked for are collected, each
once however often it is asked for.  The next dispatch counts them, and gives every
handle that waits for one of them the same answer.

## Main definitions

* `Step.pinsSince`: the pins asked for on a loader since its batch last ended.

## Main statements

* `Session.collects_after`: the lines of a loader are the pins asked for.
* `Session.dispatch_outcome`: what a dispatch reports.
* `Session.lookup_course`: what polls get and what dispatches report, in every session.
-/

namespace DesignHistory

/-- The pins asked for on a loader since its batch last ended.  It is computed from the steps alone,
so that what a dispatch reports can be said without the loader. -/
def Step.pinsSince (name : String) (steps : List Step) : List Pin :=
  steps.foldl
    (fun pins step => if step.endsBatch name then [] else pins ++ (step.asksFor? name).toList) []

namespace Session

/-! ### What a batch holds -/

/-- A step puts a ticket in a line if it asks for the pin on a loader that is there. -/
theorem schedules_iff (s : Session) (step : Step) (name : String) (pin : Pin) :
    s.schedules step name pin = true
      ↔ step.asksFor? name = some pin ∧ s.loaders.contains name = true := by
  unfold schedules Step.asksFor?
  cases step.lookup? with
  | none => simp
  | some lookup => simp

/-- The lines of a loader that is there are those of the collected pins. -/
def Collects (s : Session) (name : String) (pins : List Pin) : Prop :=
  s.loaders.contains name = true → ∀ pin, (s.line name pin).isSome ↔ pin ∈ pins

/-- A step collects the pin it asks for, and the end of a batch leaves none. -/
theorem collects_step {s : Session} {name : String} {pins : List Pin} (h : s.Collects name pins)
    (step : Step) :
    (s.step step).2.Collects name
      (if step.endsBatch name then [] else pins ++ (step.asksFor? name).toList) := by
  intro hl pin
  rw [line_step]
  by_cases hends : step.endsBatch name = true
  · simp [hends]
  · have hopen : step.closes name = false := by
      simp only [Step.endsBatch, Bool.or_eq_true, not_or] at hends
      exact Bool.eq_false_iff.2 hends.2
    rw [contains_step hopen] at hl
    have hline := h hl pin
    have hsched := schedules_iff s step name pin
    rw [hl, eq_self_iff_true, and_true] at hsched
    by_cases hasks : step.asksFor? name = some pin
    · simp [hends, hsched.2 hasks, hasks]
    · have hnot : ¬s.schedules step name pin = true := fun hs => hasks (hsched.1 hs)
      simp [hends, hnot, hasks, hline]

/-- The lines of a loader are those of the pins asked for since its batch last ended.  This is what
ties the state of a loader to its history. -/
theorem collects_after (steps : List Step) (name : String) :
    (after steps).Collects name (Step.pinsSince name steps) := by
  have hrun : ∀ (steps : List Step) (s : Session) (pins : List Pin), s.Collects name pins →
      (s.run steps).2.Collects name (steps.foldl (fun pins step =>
        if step.endsBatch name then [] else pins ++ (step.asksFor? name).toList) pins) := by
    intro steps
    induction steps with
    | nil => exact fun s pins h => h
    | cons step rest ih => exact fun s pins h => ih _ _ (collects_step h step)
  refine hrun steps empty [] ?_
  intro hl
  cases hl

/-! ### What a dispatch reports -/

/-- The number of collected pins is the number of different pins asked for. -/
theorem size_pending {s : Session} {name : String} {l : Loader} {pins : List Pin}
    (hl : s.loaders.get? name = some l) (h : s.Collects name pins) :
    l.pending.size = pins.toFinset.card := by
  have hmem : ∀ pin, pin ∈ l.pending.keys ↔ pin ∈ pins := by
    intro pin
    rw [SortedMap.mem_keys_iff, ← h (by simp [SortedMap.contains, hl]) pin, line, hl]
    rfl
  have hkeys : l.pending.keys.toFinset = pins.toFinset := by
    ext pin
    rw [List.mem_toFinset, List.mem_toFinset, hmem]
  rw [← hkeys, List.toFinset_card_of_nodup l.pending.nodup_keys, SortedMap.keys,
    List.length_map, SortedMap.size]

theorem isEmpty_pending_iff {s : Session} {name : String} {l : Loader} {pins : List Pin}
    (hl : s.loaders.get? name = some l) (h : s.Collects name pins) :
    l.pending.isEmpty = true ↔ pins = [] := by
  rw [SortedMap.isEmpty, List.isEmpty_iff_length_eq_zero, ← SortedMap.size, size_pending hl h,
    Finset.card_eq_zero, List.toFinset_eq_empty_iff]

/-- A dispatch reports the number of different pins asked for since the last one, unless there are
some and its query fails.  With nothing to ask for not even an armed failure is met. -/
theorem dispatch_outcome {s : Session} {name : String} {pins : List Pin}
    (hl : s.loaders.contains name = true) (h : s.Collects name pins) :
    (s.step (.dispatch name)).1 =
      if pins = [] then .answer (.number 0)
      else match s.store.armed with
        | none => .answer (.number pins.toFinset.card)
        | some message => .loadFailed (.fetch (.injected message)) := by
  obtain ⟨l, hl⟩ := Option.isSome_iff_exists.1 hl
  have hsize := size_pending hl h
  have hempty := isEmpty_pending_iff hl h
  simp only [step, hl, dispatch, l.result_dispatch s.store]
  by_cases hpins : pins = []
  · simp [hpins, hempty.2 hpins, Except.map, Outcome.ofLoad]
  · have hnonempty : l.pending.isEmpty = false := Bool.eq_false_iff.2 fun hl => hpins (hempty.1 hl)
    cases s.store.armed <;> simp [hpins, hnonempty, hsize, Except.map, Outcome.ofLoad]

/-- A fetch that fails for a ticket that waits reports the failure itself.  Because the ticket
waits, the batch is not empty, and there is a query that can fail. -/
theorem outcome_of_fetches {s : Session} {step : Step} {name : String} {pin : Pin} {t : Ticket}
    {message : String} (hs : s.Sound) (ht : t ∈ s.queue name pin)
    (hfetches : step.fetches name = true) (harmed : s.store.armed = some message) :
    (s.step step).1 = .loadFailed (.fetch (.injected message)) := by
  obtain ⟨l, hl, htl⟩ := exists_of_mem_queue ht
  cases step with
  | dispatch n =>
    obtain rfl : n = name := by simpa [Step.fetches] using hfetches
    have hnonempty := Batch.isEmpty_of_mem_waiting htl
    simp [step, hl, dispatch, l.result_dispatch, hnonempty, harmed, Except.map, Outcome.ofLoad]
  | resolveAll n identities =>
    obtain rfl : n = name := by simpa [Step.fetches] using hfetches
    have hnonempty := Batch.isEmpty_of_mem_waiting
      ((Loader.mem_waiting_loadAll identities (hs.below ht)).2 htl)
    simp [step, hl, dispatch, Loader.result_dispatch, hnonempty, harmed, Except.bind,
      Outcome.ofLoad]
  | _ => cases hfetches

/-! ### The course of a lookup -/

theorem after_cons (before : List Step) (step : Step) (later : List Step) :
    after (before ++ step :: later) = ((after (before ++ [step])).run later).2 := by
  simp [after_append]

theorem waits_after {before : List Step} {step : Step} {name handle : String} {pin : Pin}
    (hlookup : step.lookup? = some (name, pin, handle))
    (hl : (after before).loaders.contains name = true) :
    (after (before ++ [step])).Waits name pin handle := by
  rw [after_append, run_cons, run_nil]
  exact waits_lookup hlookup hl

/-- The first step that ends the batch of a lookup decides what polls of its handle get
from then on. -/
theorem poll_of_first_end {before first rest : List Step} {step ending : Step}
    {name handle : String} {pin : Pin} (hlookup : step.lookup? = some (name, pin, handle))
    (hl : (after before).loaders.contains name = true)
    (hkept : (after (before ++ [step])).Keeps handle (first ++ ending :: rest))
    (hopen : ∀ e ∈ first, e.endsBatch name = false) (hends : ending.endsBatch name = true) :
    ((after (before ++ step :: (first ++ ending :: rest))).step (.poll handle)).1
      = .ofLoad (((after (before ++ step :: first)).verdict name pin ending).map .ready) := by
  rw [after_cons before step (first ++ ending :: rest), after_cons before step first]
  exact poll_of_ended (sound_after _) (waits_after hlookup hl) hkept hopen hends

/-- **The course of a lookup.** What a poll gets is decided by the first step that ends the batch of
its handle, and until then the lookup is under way.  A text that names no pin is answered at once,
and a dispatch counts the different pins asked for since the batch last ended. -/
theorem lookup_course (before : List Step) (name : String) :
    (∀ step pin handle later, step.lookup? = some (name, pin, handle) →
      (after before).loaders.contains name = true →
      (after (before ++ [step])).Keeps handle later →
        ((∀ e ∈ later, e.endsBatch name = false) →
          ((after (before ++ step :: later)).step (.poll handle)).1 = .answer .waiting)
        ∧ ∀ first ending rest, later = first ++ ending :: rest →
          (∀ e ∈ first, e.endsBatch name = false) →
            (ending.closes name = true →
              ((after (before ++ step :: later)).step (.poll handle)).1
                = .loadFailed .cancelled)
            ∧ (ending.fetches name = true →
              match (after (before ++ step :: first)).store.armed with
              | none =>
                ((after (before ++ step :: later)).step (.poll handle)).1
                  = .answer (.ready
                      ((after (before ++ step :: first)).store.tables.pinned? pin))
              | some message =>
                ((after (before ++ step :: first)).step ending).1
                  = .loadFailed (.fetch (.injected message))
                ∧ ((after (before ++ step :: later)).step (.poll handle)).1
                  = .loadFailed (.fetch (.injected message))))
    ∧ (∀ identity handle later, Pin.decode? identity = none →
      (after before).loaders.contains name = true →
      (after (before ++ [.loadIdentity name identity handle])).Keeps handle later →
        ((after (before ++ .loadIdentity name identity handle :: later)).step (.poll handle)).1
          = .answer (.ready none))
    ∧ ((after before).loaders.contains name = true →
      ((after before).step (.dispatch name)).1 =
        if Step.pinsSince name before = [] then .answer (.number 0)
        else match (after before).store.armed with
          | none => .answer (.number (Step.pinsSince name before).toFinset.card)
          | some message => .loadFailed (.fetch (.injected message))) := by
  refine ⟨?_, ?_, fun hl => dispatch_outcome hl (collects_after before name)⟩
  · intro step pin handle later hlookup hl hkept
    refine ⟨fun hopen => ?_, ?_⟩
    · rw [after_cons]
      exact poll_of_waits (waits_run (sound_after _) (waits_after hlookup hl) hkept hopen)
    rintro first ending rest rfl hopen
    refine ⟨fun hcloses => ?_, fun hfetches => ?_⟩
    -- a step that closes a loader fetches nothing, so the verdict is one of two
    · rw [poll_of_first_end hlookup hl hkept hopen (by rw [Step.endsBatch, hcloses, Bool.or_true]),
        verdict, hcloses]
      rfl
    · have hnot : ending.closes name = false := by
        cases ending with
        | newLoader n => cases hfetches
        | dropLoader n => cases hfetches
        | _ => rfl
      have hpoll := poll_of_first_end hlookup hl hkept hopen
        (by rw [Step.endsBatch, hfetches, Bool.true_or])
      rw [verdict, hnot, if_neg Bool.false_ne_true, Store.fetched] at hpoll
      split
      · rename_i harmed
        rw [hpoll, harmed]
        rfl
      · rename_i message harmed
        -- the step itself fails only because something still waits when it is taken
        have hwaits := waits_run (sound_after _) (waits_after hlookup hl)
          (along_append.1 hkept).1 hopen
        rw [← after_cons] at hwaits
        obtain ⟨t, -, ht⟩ := hwaits
        refine ⟨outcome_of_fetches (sound_after _) ht hfetches harmed, ?_⟩
        rw [hpoll, harmed]
        rfl
  · intro identity handle later hidentity hl hkept
    obtain ⟨l, hl⟩ := Option.isSome_iff_exists.1 hl
    have hanswered : (after (before ++ [.loadIdentity name identity handle])).handles.get? handle
        = some (.answered (.ok none)) := by
      simp [after_append, step, hl, schedule, hidentity]
    rw [after_cons]
    exact poll_of_answered (answered_run hanswered hkept)

/-- A stored design, the version that creates it, and a loader. -/
def withLoader : List Step :=
  [.insertIssue 7 "a", .insertDesign (.stored 1) "b",
    .commitVersion (.stored 1) [(2, .creation)] default, .newLoader "l"]

/-- Work beside a lookup that waits: a second pin on the same loader, a new design, a batch of
another loader, and a poll. -/
def meanwhile : List Step :=
  [.load "l" ⟨4, 3⟩ "g", .insertDesign (.stored 1) "c", .newLoader "m",
    .loadIdentity "m" "2.3" "k", .dispatch "m", .poll "h"]

/-- Work after a batch has ended: the design is deleted, and the loader is used again. -/
def afterwards : List Step :=
  [.commitVersion (.stored 1) [(2, .deletion)] default, .load "l" ⟨2, 3⟩ "k", .dispatch "l"]

/-- The lookup of the stored pair gets its record from the first dispatch, the failure of a
dispatch that fails, or a cancellation, and keeps it; until then it waits.  A malformed text is
answered at once, and the dispatch counts two different pins. -/
theorem lookup_course_of_one_loader :
    ((after (withLoader ++ .load "l" ⟨2, 3⟩ "h" :: (meanwhile ++ .dispatch "l" :: afterwards))).step
        (.poll "h")).1
        = .answer (.ready (some (.of ⟨2, 7, 1, "b"⟩
          ⟨3, 1, Version.computeSha 1 none [⟨2, 3, .creation⟩], none, default⟩)))
      ∧ (((after (withLoader ++ .load "l" ⟨2, 3⟩ "h" :: (meanwhile ++ [.failNext "down"]))).step
            (.dispatch "l")).1 = .loadFailed (.fetch (.injected "down"))
        ∧ ((after (withLoader ++ .load "l" ⟨2, 3⟩ "h"
            :: ((meanwhile ++ [.failNext "down"]) ++ .dispatch "l" :: afterwards))).step
            (.poll "h")).1 = .loadFailed (.fetch (.injected "down")))
      ∧ ((after (withLoader ++ .load "l" ⟨2, 3⟩ "h"
          :: (meanwhile ++ .dropLoader "l" :: afterwards))).step (.poll "h")).1
        = .loadFailed .cancelled
      ∧ ((after (withLoader ++ .load "l" ⟨2, 3⟩ "h" :: meanwhile)).step (.poll "h")).1
        = .answer .waiting
      ∧ ((after (withLoader ++ .loadIdentity "l" "2" "i"
          :: (meanwhile ++ .dropLoader "l" :: afterwards))).step (.poll "i")).1
        = .answer (.ready none)
      ∧ ((after (withLoader ++ .load "l" ⟨2, 3⟩ "h" :: meanwhile)).step (.dispatch "l")).1
        = .answer (.number 2) := by
  obtain ⟨hlookup, hmalformed, -⟩ := lookup_course withLoader "l"
  have hload := hlookup (.load "l" ⟨2, 3⟩ "h") ⟨2, 3⟩ "h"
  refine ⟨?_, ?_, ?_, ?_, ?_, ?_⟩
  · obtain ⟨-, hended⟩ := hload (meanwhile ++ .dispatch "l" :: afterwards) rfl (by decide)
      (by decide)
    exact (hended meanwhile (.dispatch "l") afterwards rfl (by decide)).2 (by decide)
  · obtain ⟨-, hended⟩ := hload ((meanwhile ++ [.failNext "down"]) ++ .dispatch "l" :: afterwards)
      rfl (by decide) (by decide)
    exact (hended (meanwhile ++ [.failNext "down"]) (.dispatch "l") afterwards rfl
      (by decide)).2 (by decide)
  · obtain ⟨-, hended⟩ := hload (meanwhile ++ .dropLoader "l" :: afterwards) rfl (by decide)
      (by decide)
    exact (hended meanwhile (.dropLoader "l") afterwards rfl (by decide)).1 (by decide)
  · exact (hload meanwhile rfl (by decide) (by decide)).1 (by decide)
  · exact hmalformed "2" "i" (meanwhile ++ .dropLoader "l" :: afterwards) (by decide) (by decide)
      (by decide)
  · exact (lookup_course (withLoader ++ .load "l" ⟨2, 3⟩ "h" :: meanwhile) "l").2.2 (by decide)

end Session

end DesignHistory
