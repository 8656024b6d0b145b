import DesignHistory.Proofs.Loader.Tickets
import DesignHistory.Session

/-!
# Lines of waiting lookups

The lookups of a session stand in lines, one for each loader and pin, until the
batch of their loader ends.  This module says what a step does to the lines and to
the handles, each in one equation, so that nothing else has to look into a step.

## Main definitions

* `Step.lookup?`: what a step asks for, and under which handle.
* `Step.fetches`, `Step.closes`, `Step.endsBatch`: how the batch of a loader ends.
* `Session.line`: the tickets that wait for a pin on a loader.
* `Session.schedules`: whether a step puts a ticket in a line.
* `Session.releases`: whether a step takes a handle away from its lookup.
* `Session.answers`: what a step gives to the tickets of the batch it ends.

## Main statements

* `Session.line_step`: what becomes of a line.
* `Session.handle_step`: what becomes of a handle that is not released.
-/

namespace DesignHistory

/-! ### What steps mean for lookups -/

namespace Step

/-- The loader, the pin and the handle of a step that asks for a pin. -/
def lookup? : Step → Option (String × Pin × String)
  | .load name pin handle => some (name, pin, handle)
  | .loadIdentity name identity handle => (Pin.decode? identity).map (name, ·, handle)
  | _ => none

/-- Whether a step fetches what waits on a loader. -/
def fetches (name : String) : Step → Bool
  | .dispatch n | .resolveAll n _ => n == name
  | _ => false

/-- Whether a step brings a loader of a name to its end. -/
def closes (name : String) : Step → Bool
  | .newLoader n | .dropLoader n => n == name
  | _ => false

/-- Whether a step ends the batch that waits on a loader. -/
def endsBatch (name : String) (step : Step) : Bool := step.fetches name || step.closes name

end Step

namespace Session

/-- The tickets that wait for a pin on a loader, if the pin was asked for.  Lines are looked at one
by one, because a step changes one of them at most unless it ends a batch. -/
def line (s : Session) (name : String) (pin : Pin) : Option (List Ticket) :=
  (s.loaders.get? name).bind fun l => l.pending.get? pin

/-- Whether a step puts a ticket in the line of a pin on a loader. -/
def schedules (s : Session) (step : Step) (name : String) (pin : Pin) : Bool :=
  match step.lookup? with
  | some (n, p, _) => n == name && p == pin && s.loaders.contains name
  | none => false

/-- Whether a step takes a handle away from its lookup: by putting it to another use, by dropping
it, or by a poll that gets the answer.  A poll that finds the lookup under way leaves the handle. -/
def releases (s : Session) (handle : String) : Step → Bool
  | .load name _ h | .loadIdentity name _ h => h == handle && s.loaders.contains name
  | .dropHandle h => h == handle
  | .poll h =>
    h == handle
      && (match s.handles.get? handle with
          | some (.answered _) => true
          | _ => false)
  | _ => false

/-- What a step gives to the tickets of the batch that it ends.  The handles need not be known for
that, only the loader and the store. -/
def answers (s : Session) : Step → List (Ticket × LoadResult)
  | .newLoader name | .dropLoader name =>
    ((s.loaders.get? name).map fun l => l.pending.cancellations).getD []
  | .dispatch name => ((s.loaders.get? name).map fun l => (l.dispatch s.store).answers).getD []
  | .resolveAll name identities =>
    ((s.loaders.get? name).map fun l =>
      ((l.loadAll s.nextTicket identities).2.1.dispatch s.store).answers).getD []
  | _ => []

/-! ### Lines -/

/-- What becomes of the lines when a loader is put in the place of its name. -/
theorem line_insert (s : Session) (n : String) (l : Loader) (name : String) (pin : Pin) :
    ({ s with loaders := s.loaders.insert n l } : Session).line name pin
      = if name = n then l.pending.get? pin else s.line name pin := by
  unfold line
  rw [SortedMap.get?_insert]
  split <;> rfl

theorem line_withoutLoader (s : Session) (n name : String) (pin : Pin) :
    (s.withoutLoader n).line name pin = if name = n then none else s.line name pin := by
  unfold withoutLoader
  by_cases hn : name = n
  · cases h : s.loaders.get? n <;> simp [line, hn, h]
  · cases h : s.loaders.get? n <;> simp [line, hn, SortedMap.get?_erase_of_ne _ hn]

/-- A lookup is put at the end of its line. -/
theorem line_schedule (s : Session) {n : String} {l : Loader} (hl : s.loaders.get? n = some l)
    (pin : Option Pin) (handle name : String) (pin' : Pin) :
    (s.schedule n l pin handle).1.line name pin'
      = if name = n ∧ pin = some pin' then some ((s.line name pin').getD [] ++ [s.nextTicket])
        else s.line name pin' := by
  cases pin with
  | none => simp [schedule, line]
  | some pin =>
    show ({ s with loaders := s.loaders.insert n (l.load pin s.nextTicket) } : Session).line
      name pin' = _
    rw [line_insert, Loader.load, Batch.enqueue, SortedMap.get?_insert]
    by_cases hn : name = n
    · by_cases hpin : pin' = pin
      · simp [line, hn, hpin, hl]
      · simp [line, hn, hpin, Ne.symm hpin, hl]
    · simp [hn]

theorem line_dispatch (s : Session) (n : String) (l : Loader) (name : String) (pin : Pin) :
    (s.dispatch n l).2.line name pin = if name = n then none else s.line name pin := by
  show ({ s with loaders := s.loaders.insert n (l.dispatch s.store).loader } : Session).line
    name pin = _
  rw [line_insert, Loader.pending_dispatch, SortedMap.get?_empty]

/-- A step that ends the batch of one loader, once it is known to end its lines. -/
private theorem line_step_of_ends {s : Session} {step : Step} {n : String}
    (hlookup : step.lookup? = none) (hends : ∀ name, step.endsBatch name = (n == name))
    {name : String} {pin : Pin}
    (h : (s.step step).2.line name pin = if name = n then none else s.line name pin) :
    (s.step step).2.line name pin =
      if step.endsBatch name then none
      else if s.schedules step name pin then some ((s.line name pin).getD [] ++ [s.nextTicket])
      else s.line name pin := by
  rw [h, hends, schedules, hlookup]
  by_cases hn : n = name
  · simp [hn]
  · simp [hn, Ne.symm hn]

/-- A step that asks for a pin, if there is one, once it is known to do so on a loader
that is there. -/
private theorem line_step_of_lookup {s : Session} {step : Step} {n handle : String}
    {p : Option Pin} (hlookup : step.lookup? = p.map (n, ·, handle))
    (hends : ∀ name, step.endsBatch name = false)
    (h : (s.step step).2 = ((s.loaders.get? n).map fun l => (s.schedule n l p handle).1).getD s)
    (name : String) (pin : Pin) :
    (s.step step).2.line name pin =
      if step.endsBatch name then none
      else if s.schedules step name pin then some ((s.line name pin).getD [] ++ [s.nextTicket])
      else s.line name pin := by
  rw [h, hends, schedules, hlookup]
  cases hl : s.loaders.get? n with
  | none =>
    by_cases hn : n = name
    · cases p <;> simp [← hn, SortedMap.contains, hl]
    · cases p <;> simp [hn]
  | some l =>
    rw [Option.map_some, Option.getD_some, line_schedule s hl]
    by_cases hn : n = name
    · cases p <;> simp [← hn, SortedMap.contains, hl]
    · cases p <;> simp [hn, Ne.symm hn]

/-- **A step ends a line, or puts a new ticket at its end, or leaves it as it is.** All that is
proved about waiting lookups comes from this equation. -/
theorem line_step (s : Session) (step : Step) (name : String) (pin : Pin) :
    (s.step step).2.line name pin =
      if step.endsBatch name then none
      else if s.schedules step name pin then some ((s.line name pin).getD [] ++ [s.nextTicket])
      else s.line name pin := by
  cases step with
  | newLoader n =>
    refine line_step_of_ends rfl (fun _ => rfl) ?_
    simp only [step, line_insert, line_withoutLoader]
    split <;> rfl
  | dropLoader n => exact line_step_of_ends rfl (fun _ => rfl) (line_withoutLoader s n name pin)
  | load n p handle =>
    refine line_step_of_lookup (p := some p) rfl (fun _ => rfl) ?_ name pin
    cases hl : s.loaders.get? n <;> simp [step, hl]
  | loadIdentity n identity handle =>
    refine line_step_of_lookup rfl (fun _ => rfl) ?_ name pin
    cases hl : s.loaders.get? n <;> simp [step, hl]
  | dispatch n =>
    refine line_step_of_ends rfl (fun m => by exact Bool.or_false (n == m)) ?_
    cases hl : s.loaders.get? n with
    -- the step is refused, but an absent loader has no lines either
    | none => simp +contextual [step, hl, line]
    | some l =>
      simp only [step, hl]
      exact line_dispatch s n l name pin
  | resolveAll n identities =>
    refine line_step_of_ends rfl (fun m => by exact Bool.or_false (n == m)) ?_
    cases hl : s.loaders.get? n with
    | none => simp +contextual [step, hl, line]
    | some l =>
      simp only [step, hl]
      exact line_dispatch { s with nextTicket := (l.loadAll s.nextTicket identities).2.2 } n
        (l.loadAll s.nextTicket identities).2.1 name pin
  | _ =>
    simp only [step, Step.endsBatch, Step.fetches, Step.closes, schedules, Step.lookup?]
    (repeat' split) <;> simp [line, eventsFor]

/-! ### Loaders and tickets -/

/-- The end of a loader leaves the other loaders alone. -/
theorem get?_loaders_withoutLoader (s : Session) {n name : String} (h : name ≠ n) :
    (s.withoutLoader n).loaders.get? name = s.loaders.get? name := by
  unfold withoutLoader
  split
  · exact SortedMap.get?_erase_of_ne _ h
  · rfl

/-- A new value for a loader leaves every name with or without a loader. -/
private theorem contains_insert_of_get? {loaders : SortedMap String Loader} {n : String}
    {l l' : Loader} (hl : loaders.get? n = some l) (name : String) :
    (loaders.insert n l').contains name = loaders.contains name := by
  unfold SortedMap.contains
  rw [SortedMap.get?_insert]
  split
  · rename_i hname
    rw [hname, hl]
    rfl
  · rfl

/-- A loader is there until a step closes it.  Making a loader anew under its name closes the old
one. -/
theorem contains_step {s : Session} {step : Step} {name : String}
    (h : step.closes name = false) :
    (s.step step).2.loaders.contains name = s.loaders.contains name := by
  cases step with
  | newLoader n =>
    have hn : name ≠ n := fun hn => by simp [Step.closes, hn] at h
    simp [step, SortedMap.contains, SortedMap.get?_insert_of_ne _ _ hn,
      get?_loaders_withoutLoader s hn]
  | dropLoader n =>
    have hn : name ≠ n := fun hn => by simp [Step.closes, hn] at h
    simp [step, SortedMap.contains, get?_loaders_withoutLoader s hn]
  | load n p handle =>
    cases hl : s.loaders.get? n with
    | none => simp [step, hl]
    | some l =>
      simp only [step, hl]
      exact contains_insert_of_get? hl name
  | loadIdentity n identity handle =>
    cases hl : s.loaders.get? n with
    | none => simp [step, hl]
    | some l =>
      simp only [step, hl]
      cases Pin.decode? identity with
      | none => rfl
      | some pin => exact contains_insert_of_get? hl name
  | dispatch n =>
    cases hl : s.loaders.get? n with
    | none => simp [step, hl]
    | some l =>
      simp only [step, hl]
      exact contains_insert_of_get? hl name
  | resolveAll n identities =>
    cases hl : s.loaders.get? n with
    | none => simp [step, hl]
    | some l =>
      simp only [step, hl]
      exact contains_insert_of_get? hl name
  | _ => simp only [step] <;> (repeat' split) <;> rfl

/-- A step takes no ticket back. -/
theorem nextTicket_step (s : Session) (step : Step) :
    s.nextTicket ≤ (s.step step).2.nextTicket := by
  have hwithout : ∀ n, (s.withoutLoader n).nextTicket = s.nextTicket := by
    intro n
    unfold withoutLoader
    split <;> rfl
  have hschedule : ∀ n l pin handle,
      s.nextTicket ≤ (s.schedule n l pin handle).1.nextTicket := by
    intro n l pin handle
    cases pin with
    | none => exact Nat.le_refl _
    | some pin => exact Nat.le_succ _
  cases step with
  | newLoader n => exact Nat.le_of_eq (hwithout n).symm
  | dropLoader n => exact Nat.le_of_eq (hwithout n).symm
  | load n p handle =>
    simp only [step]
    split
    · exact Nat.le_refl _
    · exact hschedule _ _ _ _
  | loadIdentity n identity handle =>
    simp only [step]
    split
    · exact Nat.le_refl _
    · exact hschedule _ _ _ _
  | resolveAll n identities =>
    simp only [step]
    split
    · exact Nat.le_refl _
    · exact Loader.le_loadAll _ _ _
  | _ =>
    simp only [step]
    (repeat' split) <;> exact Nat.le_refl _

/-! ### What a step does to the handles -/

@[simp]
theorem receive_nil : Handle.receive [] = id := by
  funext h
  cases h <;> rfl

theorem handle_withoutLoader (s : Session) (n handle : String) :
    (s.withoutLoader n).handles.get? handle
      = (s.handles.get? handle).map (Handle.receive (s.answers (.dropLoader n))) := by
  cases h : s.loaders.get? n <;> simp [withoutLoader, answers, deliver, h]

theorem handle_schedule_of_ne (s : Session) (n : String) (l : Loader) (pin : Option Pin)
    {handle handle' : String} (h : handle ≠ handle') :
    (s.schedule n l pin handle').1.handles.get? handle = s.handles.get? handle := by
  cases pin <;> exact SortedMap.get?_insert_of_ne _ _ h

/-- A step that does not release a handle gives it what it gives to its ticket.  So a handle needs
to be looked at only where a batch ends. -/
theorem handle_step {s : Session} {step : Step} {handle : String}
    (h : s.releases handle step = false) :
    (s.step step).2.handles.get? handle
      = (s.handles.get? handle).map (Handle.receive (s.answers step)) := by
  cases step with
  | newLoader n => exact handle_withoutLoader s n handle
  | dropLoader n => exact handle_withoutLoader s n handle
  | load n p handle' =>
    cases hl : s.loaders.get? n with
    | none => simp [step, answers, hl]
    | some l =>
      have hne : handle ≠ handle' := by
        rintro rfl
        simp [releases, SortedMap.contains, hl] at h
      simp [step, answers, hl, handle_schedule_of_ne s n l _ hne]
  | loadIdentity n identity handle' =>
    cases hl : s.loaders.get? n with
    | none => simp [step, answers, hl]
    | some l =>
      have hne : handle ≠ handle' := by
        rintro rfl
        simp [releases, SortedMap.contains, hl] at h
      simp [step, answers, hl, handle_schedule_of_ne s n l _ hne]
  | dispatch n => cases hl : s.loaders.get? n <;> simp [step, answers, hl, dispatch, deliver]
  | resolveAll n identities =>
    cases hl : s.loaders.get? n <;> simp [step, answers, hl, dispatch, deliver]
  | poll handle' =>
    by_cases hne : handle = handle'
    · -- a poll that gets the answer releases the handle, and another one changes nothing
      subst hne
      rcases hh : s.handles.get? handle with _ | result | ticket
      · simp [step, answers, hh]
      · simp [releases, hh] at h
      · simp [step, answers, hh]
    · rcases hh : s.handles.get? handle' with _ | result | ticket <;>
        simp [step, answers, hh, SortedMap.get?_erase_of_ne _ hne]
  | dropHandle handle' =>
    have hne : handle ≠ handle' := by
      rintro rfl
      simp [releases] at h
    simp [step, answers, SortedMap.get?_erase_of_ne _ hne]
  | _ =>
    simp only [step]
    (repeat' split) <;> simp [answers, eventsFor]

end Session

end DesignHistory
