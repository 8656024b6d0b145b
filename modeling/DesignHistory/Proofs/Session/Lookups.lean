import DesignHistory.Proofs.Session.Lines

/-!
# Lookups over whole runs

A handle that was given out for a pin waits with a ticket in the line of its pin
until the batch of the loader ends, and how the batch ends decides the answer for
good.  The invariant behind this is that every ticket stands in one line only:
otherwise a ticket could be answered from a batch that is not its own.

## Main definitions

* `Session.queue`: the tickets that wait for a pin on a loader.
* `Session.Sound`: the records are keyed, and each ticket was given out for one line.
* `Session.Waits`: a handle waits for a pin on a loader.
* `Session.verdict`: what the end of a batch comes to for a pin.

## Main statements

* `Session.sound_after`: every session is sound.
* `Session.answerTo_answers`: what a step gives to a ticket that waits.
* `Session.poll_of_ended`: what a poll gets, after any course of events.
-/

namespace DesignHistory

/-- The pin that a step asks for on a loader. -/
def Step.asksFor? (name : String) (step : Step) : Option Pin :=
  step.lookup?.bind fun (n, pin, _) => if n = name then some pin else none

namespace Session

/-! ### Tickets stand in one line -/

/-- The tickets that wait for a pin on a loader. -/
def queue (s : Session) (name : String) (pin : Pin) : List Ticket := (s.line name pin).getD []

/-- On a loader that is there, the tickets of its batch wait. -/
theorem queue_of_get? {s : Session} {name : String} {l : Loader}
    (hl : s.loaders.get? name = some l) (pin : Pin) :
    s.queue name pin = l.pending.waiting pin := by
  rw [queue, line, hl]
  rfl

/-- A ticket can only wait on a loader that is there. -/
theorem exists_of_mem_queue {s : Session} {name : String} {pin : Pin} {t : Ticket}
    (ht : t ∈ s.queue name pin) :
    ∃ l, s.loaders.get? name = some l ∧ t ∈ l.pending.waiting pin := by
  cases hl : s.loaders.get? name with
  | none =>
    rw [queue, line, hl] at ht
    cases ht
  | some l => exact ⟨l, rfl, queue_of_get? hl pin ▸ ht⟩

/-- After a step a ticket waits if it waited before or was put in the line, unless the
batch has ended. -/
theorem mem_queue_step {s : Session} {step : Step} {name : String} {pin : Pin} {t : Ticket} :
    t ∈ (s.step step).2.queue name pin ↔
      step.endsBatch name = false
        ∧ (t ∈ s.queue name pin ∨ s.schedules step name pin = true ∧ t = s.nextTicket) := by
  unfold queue
  rw [line_step]
  by_cases hends : step.endsBatch name = true
  · simp [hends]
  · by_cases hsched : s.schedules step name pin = true
    · simp [hends, hsched]
    · simp [hends, hsched]

/-- A step puts a ticket in one line at most. -/
theorem eq_of_schedules {s : Session} {step : Step} {name name' : String} {pin pin' : Pin}
    (h : s.schedules step name pin = true) (h' : s.schedules step name' pin' = true) :
    name = name' ∧ pin = pin' := by
  unfold schedules at h h'
  split at h
  · rename_i n p _ hlookup
    simp only [hlookup, Bool.and_eq_true, beq_iff_eq] at h h'
    exact ⟨h.1.1.symm.trans h'.1.1, h.1.2.symm.trans h'.1.2⟩
  · cases h

/-- A step that asks for a pin, as one of two. -/
theorem lookup?_eq_some {step : Step} {name handle : String} {pin : Pin}
    (h : step.lookup? = some (name, pin, handle)) :
    step = .load name pin handle
      ∨ ∃ identity, Pin.decode? identity = some pin
        ∧ step = .loadIdentity name identity handle := by
  cases step with
  | load n p h' =>
    cases h
    exact .inl rfl
  | loadIdentity n identity h' =>
    obtain ⟨p, hp, heq⟩ := Option.map_eq_some_iff.1 h
    cases heq
    exact .inr ⟨identity, hp, rfl⟩
  | _ => cases h

/-- A step that asks a loader for a pin gives its handle the next ticket. -/
theorem step_lookup {s : Session} {step : Step} {name handle : String} {pin : Pin}
    (h : step.lookup? = some (name, pin, handle)) (hl : s.loaders.contains name = true) :
    (s.step step).2.handles.get? handle = some (.waiting s.nextTicket)
      ∧ (s.step step).2.nextTicket = s.nextTicket + 1 := by
  obtain ⟨l, hl⟩ := Option.isSome_iff_exists.1 hl
  rcases lookup?_eq_some h with rfl | ⟨identity, hpin, rfl⟩
  · simp [step, hl, schedule]
  · simp [step, hl, schedule, hpin]

/-- A ticket that is put in a line is not there again. -/
theorem nextTicket_step_of_schedules {s : Session} {step : Step} {name : String} {pin : Pin}
    (h : s.schedules step name pin = true) : s.nextTicket < (s.step step).2.nextTicket := by
  unfold schedules at h
  split at h
  · rename_i n p handle hlookup
    simp only [Bool.and_eq_true, beq_iff_eq] at h
    rw [(step_lookup hlookup (h.1.1 ▸ h.2)).2]
    exact Nat.lt_succ_self _
  · cases h

/-- The records are keyed; the tickets in the lines were given out before the next one, each for one
line.  It is what lets a ticket be followed through steps that have nothing to do with it. -/
structure Sound (s : Session) : Prop where
  keyed : s.store.tables.Keyed
  below : ∀ {name pin t}, t ∈ s.queue name pin → t < s.nextTicket
  single : ∀ {name name' pin pin' t}, t ∈ s.queue name pin → t ∈ s.queue name' pin' →
    name = name' ∧ pin = pin'

/-- A step keeps a session sound. -/
theorem sound_step {s : Session} (hs : s.Sound) (step : Step) : (s.step step).2.Sound := by
  refine ⟨keyed_step hs.keyed step, ?_, ?_⟩
  · intro name pin t ht
    obtain ⟨-, ht | ⟨hsched, rfl⟩⟩ := mem_queue_step.1 ht
    · exact Nat.lt_of_lt_of_le (hs.below ht) (nextTicket_step s step)
    · exact nextTicket_step_of_schedules hsched
  · intro name name' pin pin' t ht ht'
    -- the next ticket is in no line yet, so a ticket is old in both lines or new in both
    obtain ⟨-, ht | ⟨hsched, hnew⟩⟩ := mem_queue_step.1 ht <;>
      obtain ⟨-, ht' | ⟨hsched', hnew'⟩⟩ := mem_queue_step.1 ht'
    · exact hs.single ht ht'
    · exact absurd (hs.below ht) (hnew' ▸ Nat.lt_irrefl _)
    · exact absurd (hs.below ht') (hnew ▸ Nat.lt_irrefl _)
    · exact eq_of_schedules hsched hsched'

/-- Every session is sound. -/
theorem sound_after (steps : List Step) : (after steps).Sound := by
  refine after_induction (P := Sound) ⟨keyed_after [], ?_, ?_⟩ (fun _ step h => sound_step h step)
    steps
  · intro name pin t ht
    cases ht
  · intro name name' pin pin' t ht
    cases ht

/-- The batch of a loader in a sound session was given out ticket by ticket. -/
theorem Sound.issued {s : Session} (hs : s.Sound) {name : String} {l : Loader}
    (hl : s.loaders.get? name = some l) : l.pending.Issued s.nextTicket := by
  constructor
  · intro pin t ht
    rw [← queue_of_get? hl] at ht
    exact hs.below ht
  · intro pin pin' t ht ht'
    rw [← queue_of_get? hl] at ht ht'
    exact (hs.single ht ht').2

/-! ### How a batch ends -/

/-- What the end of a batch comes to for a pin.  A batch that is closed comes to a cancellation, and
any other end is a fetch. -/
def verdict (s : Session) (name : String) (pin : Pin) (step : Step) : LoadResult :=
  if step.closes name then .error .cancelled else s.store.fetched pin

/-- Of the answers given to the batch of a loader, possibly with newer tickets, a ticket
takes the one of its pin if it waits on this loader. -/
private theorem answerTo_label_of_mem_queue {s : Session} (hs : s.Sound) {n : String}
    {l : Loader} (hl : s.loaders.get? n = some l) {b : Batch} {next : Ticket}
    (hb : b.Issued next)
    (hold : ∀ {pin t}, t < s.nextTicket → (t ∈ b.waiting pin ↔ t ∈ l.pending.waiting pin))
    (g : Pin → LoadResult) {name : String} {pin : Pin} {t : Ticket}
    (ht : t ∈ s.queue name pin) :
    answerTo t (b.label g) = if n = name then some (g pin) else none := by
  split
  · rename_i hn
    subst hn
    rw [queue_of_get? hl] at ht
    have htb : t ∈ b.waiting pin := (hold (hs.issued hl |>.below ht)).2 ht
    exact Batch.answerTo_label hb g htb
  · rename_i hn
    refine Batch.answerTo_label_eq_none g fun pin' htb => hn ?_
    have ht' : t ∈ s.queue n pin' := by
      rw [queue_of_get? hl]
      exact (hold (hs.below ht)).1 htb
    exact (hs.single ht' ht).1

/-- A ticket that waits gets an answer from the step that ends its batch, and from no other step.
Batches of other loaders have tickets of their own. -/
theorem answerTo_answers {s : Session} (hs : s.Sound) {name : String} {pin : Pin} {t : Ticket}
    (ht : t ∈ s.queue name pin) (step : Step) :
    answerTo t (s.answers step)
      = if step.endsBatch name then some (s.verdict name pin step) else none := by
  -- an absent loader gives no answers, and is not the one on which the ticket waits
  have habsent : ∀ {n}, s.loaders.get? n = none → n ≠ name := by
    rintro n hn rfl
    obtain ⟨l, hl, -⟩ := exists_of_mem_queue ht
    rw [hl] at hn
    cases hn
  have hclosed : ∀ n, answerTo t (((s.loaders.get? n).map fun l =>
      l.pending.cancellations).getD []) = if n = name then some (.error .cancelled) else none := by
    intro n
    cases hl : s.loaders.get? n with
    | none => rw [if_neg (habsent hl)]; rfl
    | some l =>
      rw [Option.map_some, Option.getD_some, Batch.cancellations_eq_label]
      exact answerTo_label_of_mem_queue hs hl (hs.issued hl) (fun _ => Iff.rfl) _ ht
  cases step with
  | newLoader n =>
    rw [answers, hclosed]
    by_cases hn : n = name <;> simp [Step.endsBatch, Step.fetches, Step.closes, verdict, hn]
  | dropLoader n =>
    rw [answers, hclosed]
    by_cases hn : n = name <;> simp [Step.endsBatch, Step.fetches, Step.closes, verdict, hn]
  | dispatch n =>
    simp only [answers, Step.endsBatch, Step.fetches, Step.closes, Bool.or_false, verdict,
      beq_iff_eq]
    cases hl : s.loaders.get? n with
    | none => rw [if_neg (habsent hl)]; rfl
    | some l =>
      rw [Option.map_some, Option.getD_some, Loader.answers_dispatch l hs.keyed]
      exact answerTo_label_of_mem_queue hs hl (hs.issued hl) (fun _ => Iff.rfl) _ ht
  | resolveAll n identities =>
    simp only [answers, Step.endsBatch, Step.fetches, Step.closes, Bool.or_false, verdict,
      beq_iff_eq]
    cases hl : s.loaders.get? n with
    | none => rw [if_neg (habsent hl)]; rfl
    | some l =>
      rw [Option.map_some, Option.getD_some, Loader.answers_dispatch _ hs.keyed]
      exact answerTo_label_of_mem_queue hs hl (Loader.issued_loadAll (hs.issued hl) identities)
        (Loader.mem_waiting_loadAll identities) _ ht
  | _ => rfl

/-! ### Handles that wait -/

/-- A handle waits for a pin on a loader. -/
def Waits (s : Session) (name : String) (pin : Pin) (handle : String) : Prop :=
  ∃ t, s.handles.get? handle = some (.waiting t) ∧ t ∈ s.queue name pin

/-- A step that asks a loader for a pin makes its handle wait. -/
theorem waits_lookup {s : Session} {step : Step} {name handle : String} {pin : Pin}
    (h : step.lookup? = some (name, pin, handle)) (hl : s.loaders.contains name = true) :
    (s.step step).2.Waits name pin handle := by
  refine ⟨s.nextTicket, (step_lookup h hl).1, mem_queue_step.2 ⟨?_, .inr ⟨?_, rfl⟩⟩⟩
  · rcases lookup?_eq_some h with rfl | ⟨identity, -, rfl⟩ <;> rfl
  · simp [schedules, h, hl]

/-- A handle that is released is gone, or waits, or was given a text that names no pin.  These are
all the ways in which a handle starts anew. -/
theorem handle_step_of_releases {s : Session} {step : Step} {handle : String}
    (h : s.releases handle step = true) :
    (s.step step).2.handles.get? handle = none
      ∨ (∃ name pin, (s.step step).2.Waits name pin handle)
      ∨ (s.step step).2.handles.get? handle = some (.answered (.ok none)) := by
  cases step with
  | load n p handle' =>
    obtain ⟨heq, hl⟩ := Bool.and_eq_true_iff.1 h
    obtain rfl := beq_iff_eq.1 heq
    exact .inr (.inl ⟨n, p, waits_lookup rfl hl⟩)
  | loadIdentity n identity handle' =>
    obtain ⟨heq, hl⟩ := Bool.and_eq_true_iff.1 h
    obtain rfl := beq_iff_eq.1 heq
    cases hpin : Pin.decode? identity with
    | some pin =>
      have hlookup : (Step.loadIdentity n identity handle').lookup? = some (n, pin, handle') := by
        rw [Step.lookup?, hpin]
        rfl
      exact .inr (.inl ⟨n, pin, waits_lookup hlookup hl⟩)
    | none =>
      obtain ⟨l, hl⟩ := Option.isSome_iff_exists.1 hl
      refine .inr (.inr ?_)
      simp [step, hl, schedule, hpin]
  | dropHandle handle' =>
    obtain rfl := beq_iff_eq.1 h
    exact .inl (SortedMap.get?_erase_self _ _)
  | poll handle' =>
    obtain ⟨heq, hanswered⟩ := Bool.and_eq_true_iff.1 h
    obtain rfl := beq_iff_eq.1 heq
    split at hanswered
    · rename_i r hr
      refine .inl ?_
      simp [step, hr]
    · cases hanswered
  | _ => cases h

/-- A handle that waits goes on waiting until its batch ends. -/
theorem waits_step {s : Session} (hs : s.Sound) {step : Step} {name handle : String} {pin : Pin}
    (hw : s.Waits name pin handle) (hkept : s.releases handle step = false)
    (hends : step.endsBatch name = false) : (s.step step).2.Waits name pin handle := by
  obtain ⟨t, hhandle, ht⟩ := hw
  have hnone : answerTo t (s.answers step) = none := by
    rw [answerTo_answers hs ht, hends]
    rfl
  refine ⟨t, ?_, mem_queue_step.2 ⟨hends, .inl ht⟩⟩
  rw [handle_step hkept, hhandle, Option.map_some, Handle.receive, hnone]

/-- The end of its batch answers a handle that waits. -/
theorem answered_step_of_waits {s : Session} (hs : s.Sound) {step : Step} {name handle : String}
    {pin : Pin} (hw : s.Waits name pin handle) (hkept : s.releases handle step = false)
    (hends : step.endsBatch name = true) :
    (s.step step).2.handles.get? handle = some (.answered (s.verdict name pin step)) := by
  obtain ⟨t, hhandle, ht⟩ := hw
  have hsome : answerTo t (s.answers step) = some (s.verdict name pin step) := by
    rw [answerTo_answers hs ht, hends]
    rfl
  rw [handle_step hkept, hhandle, Option.map_some, Handle.receive, hsome]

theorem answered_step {s : Session} {step : Step} {handle : String} {result : LoadResult}
    (h : s.handles.get? handle = some (.answered result))
    (hkept : s.releases handle step = false) :
    (s.step step).2.handles.get? handle = some (.answered result) := by
  rw [handle_step hkept, h]
  rfl

/-! ### Runs -/

/-- The handle is not released along a run. -/
abbrev Keeps (s : Session) (handle : String) (steps : List Step) : Prop :=
  Along (fun s step => s.releases handle step = false) s steps

theorem sound_run {s : Session} (hs : s.Sound) (steps : List Step) : (s.run steps).2.Sound :=
  run_induction (P := Sound) (Q := fun _ _ => True) (fun _ step _ h => sound_step h step) hs
    (along_of_forall (fun _ _ => trivial) _ _)

/-- A handle waits as long as no step ends its batch. -/
theorem waits_run {s : Session} (hs : s.Sound) {steps : List Step} {name handle : String}
    {pin : Pin} (hw : s.Waits name pin handle) (hkept : s.Keeps handle steps)
    (hopen : ∀ step ∈ steps, step.endsBatch name = false) :
    (s.run steps).2.Waits name pin handle := by
  induction steps generalizing s with
  | nil => exact hw
  | cons step rest ih =>
    obtain ⟨hreleases, hrest⟩ := hkept
    have hends := hopen step List.mem_cons_self
    exact ih (sound_step hs step) (waits_step hs hw hreleases hends) hrest
      fun later hlater => hopen later (List.mem_cons_of_mem _ hlater)

/-- A handle that was answered keeps its answer along a run. -/
theorem answered_run {s : Session} {steps : List Step} {handle : String} {result : LoadResult}
    (h : s.handles.get? handle = some (.answered result)) (hkept : s.Keeps handle steps) :
    (s.run steps).2.handles.get? handle = some (.answered result) :=
  run_induction (P := fun s => s.handles.get? handle = some (.answered result))
    (fun _ _ hreleases h => answered_step h hreleases) h hkept

theorem poll_of_waits {s : Session} {name handle : String} {pin : Pin}
    (hw : s.Waits name pin handle) : (s.step (.poll handle)).1 = .answer .waiting := by
  obtain ⟨t, hhandle, -⟩ := hw
  simp [step, hhandle]

theorem poll_of_answered {s : Session} {handle : String} {result : LoadResult}
    (h : s.handles.get? handle = some (.answered result)) :
    (s.step (.poll handle)).1 = .ofLoad (result.map .ready) := by
  simp [step, h]

/-- **What a poll gets after the first step that ends the batch of a handle**, whatever happens
afterwards.  The answer is that of the moment at which the batch ended, and not of the poll. -/
theorem poll_of_ended {s : Session} (hs : s.Sound) {first rest : List Step} {ending : Step}
    {name handle : String} {pin : Pin} (hw : s.Waits name pin handle)
    (hkept : s.Keeps handle (first ++ ending :: rest))
    (hopen : ∀ step ∈ first, step.endsBatch name = false)
    (hends : ending.endsBatch name = true) :
    ((s.run (first ++ ending :: rest)).2.step (.poll handle)).1
      = .ofLoad (((s.run first).2.verdict name pin ending).map .ready) := by
  obtain ⟨hfirst, hending, hrest⟩ := along_append.1 hkept
  have hanswered := answered_step_of_waits (sound_run hs first) (waits_run hs hw hfirst hopen)
    hending hends
  rw [run_append, run_cons]
  exact poll_of_answered (answered_run hanswered hrest)

end Session

end DesignHistory
