import Mathlib.Data.List.Basic
import DesignHistory.Proofs.Selection.Records
import DesignHistory.Loader

/-!
# Tickets of a batch

A ticket waits for one pin in one batch, so the answer that a batch finds for it is
the one of its pin.  What keeps this true is that a ticket is given out once: the
tickets of a batch are below the next one, and the next one is new to it.

## Main definitions

* `Batch.waiting`: the tickets that wait for a pin.
* `Batch.Issued`: the tickets are below a number, and each waits for one pin.
* `Batch.label`: every ticket with what is given to its pin.
* `Store.fetched`: what a lookup comes to at a store.

## Main statements

* `Batch.answerTo_label`, `Batch.answerTo_label_eq_none`: the answer to a ticket.
* `Loader.mem_waiting_loadAll`, `Loader.issued_loadAll`: what scheduling several texts
  does to the tickets.
* `Loader.answers_dispatch`, `Loader.result_dispatch`: what a dispatch gives to its
  tickets and what it reports.
-/

namespace DesignHistory

namespace Batch

/-! ### Waiting tickets -/

/-- The tickets that wait for a pin. -/
def waiting (b : Batch) (pin : Pin) : List Ticket := (b.get? pin).getD []

@[simp]
theorem waiting_empty (pin : Pin) : waiting .empty pin = [] := rfl

/-- The tickets after one more was put in line for a pin. -/
theorem waiting_enqueue (b : Batch) (pin : Pin) (t : Ticket) (pin' : Pin) :
    (b.enqueue pin t).waiting pin'
      = if pin' = pin then b.waiting pin ++ [t] else b.waiting pin' := by
  unfold waiting enqueue
  rw [SortedMap.get?_insert]
  split <;> rfl

/-- A ticket waits for a pin if it stands in the entry of the pin. -/
theorem mem_waiting_iff {b : Batch} {pin : Pin} {t : Ticket} :
    t ∈ b.waiting pin ↔ ∃ tickets, (pin, tickets) ∈ b.entries ∧ t ∈ tickets := by
  simp only [SortedMap.mem_entries_iff]
  unfold waiting
  cases b.get? pin <;> simp

theorem mem_keys_of_mem_waiting {b : Batch} {pin : Pin} {t : Ticket} (h : t ∈ b.waiting pin) :
    pin ∈ b.keys := by
  obtain ⟨tickets, hmem, -⟩ := mem_waiting_iff.1 h
  exact List.mem_map.2 ⟨_, hmem, rfl⟩

theorem isEmpty_of_mem_waiting {b : Batch} {pin : Pin} {t : Ticket} (h : t ∈ b.waiting pin) :
    b.isEmpty = false := by
  obtain ⟨tickets, hmem, -⟩ := mem_waiting_iff.1 h
  exact SortedMap.isEmpty_eq_false (SortedMap.mem_entries_iff.1 hmem)

/-- The tickets of a batch were given out before `next`, each for one pin.  The bound is what makes
the next ticket a new one. -/
structure Issued (b : Batch) (next : Ticket) : Prop where
  below : ∀ {pin t}, t ∈ b.waiting pin → t < next
  single : ∀ {pin pin' t}, t ∈ b.waiting pin → t ∈ b.waiting pin' → pin = pin'

theorem issued_empty (next : Ticket) : Issued .empty next :=
  ⟨fun h => absurd h List.not_mem_nil, fun h => absurd h List.not_mem_nil⟩

/-- What waits after a ticket was put in line waited before, or is this ticket. -/
theorem waiting_or_eq_of_enqueue {b : Batch} {pin pin' : Pin} {t next : Ticket}
    (h : t ∈ (b.enqueue pin next).waiting pin') : t ∈ b.waiting pin' ∨ pin' = pin ∧ t = next := by
  rw [waiting_enqueue] at h
  split at h
  · rename_i hpin
    rcases List.mem_append.1 h with h | h
    · exact .inl (hpin ▸ h)
    · exact .inr ⟨hpin, List.mem_singleton.1 h⟩
  · exact .inl h

/-- The next ticket can be put in line. -/
theorem Issued.enqueue {b : Batch} {next : Ticket} (h : b.Issued next) (pin : Pin) :
    (b.enqueue pin next).Issued (next + 1) := by
  constructor
  · intro pin' t ht
    rcases waiting_or_eq_of_enqueue ht with ht | ⟨-, rfl⟩
    · exact Nat.lt_succ_of_lt (h.below ht)
    · exact Nat.lt_succ_self _
  · intro pin₁ pin₂ t ht₁ ht₂
    -- the new ticket is not among the old ones, which are below it
    rcases waiting_or_eq_of_enqueue ht₁ with h₁ | ⟨hpin₁, hnew₁⟩ <;>
      rcases waiting_or_eq_of_enqueue ht₂ with h₂ | ⟨hpin₂, hnew₂⟩
    · exact h.single h₁ h₂
    · exact absurd (h.below h₁) (hnew₂ ▸ Nat.lt_irrefl _)
    · exact absurd (h.below h₂) (hnew₁ ▸ Nat.lt_irrefl _)
    · rw [hpin₁, hpin₂]

/-! ### Answers -/

/-- Every ticket of a batch with what is given to its pin.  All ways in which a batch can end give
out answers of this shape, with different functions. -/
def label (b : Batch) (g : Pin → LoadResult) : List (Ticket × LoadResult) :=
  b.entries.flatMap fun (pin, tickets) => tickets.map fun ticket => (ticket, g pin)

theorem answers_eq_label (b : Batch) (fetched : Except StoreError (List PinnedDesign)) :
    b.answers fetched
      = b.label fun pin =>
          (fetched.map fun records => PinnedDesign.lookup pin records).mapError .fetch := rfl

theorem cancellations_eq_label (b : Batch) :
    b.cancellations = b.label fun _ => .error .cancelled := by
  simp [cancellations, tickets, label, SortedMap.values, List.flatMap, List.map_flatten,
    Function.comp_def]

/-- What is given to the pins for which some ticket waits decides everything. -/
theorem label_congr {b : Batch} {g g' : Pin → LoadResult}
    (h : ∀ {pin t}, t ∈ b.waiting pin → g pin = g' pin) : b.label g = b.label g' := by
  refine List.flatMap_congr fun e he => ?_
  refine List.map_congr_left fun t ht => ?_
  rw [h (mem_waiting_iff.2 ⟨e.2, he, ht⟩)]

/-- What tickets are given, pin by pin. -/
theorem mem_label_iff {b : Batch} {g : Pin → LoadResult} {t : Ticket} {r : LoadResult} :
    (t, r) ∈ b.label g ↔ ∃ pin, t ∈ b.waiting pin ∧ r = g pin := by
  simp only [label, List.mem_flatMap, List.mem_map, mem_waiting_iff]
  constructor
  · rintro ⟨⟨pin, tickets⟩, hmem, t', ht', heq⟩
    obtain ⟨rfl, rfl⟩ := Prod.mk.inj heq
    exact ⟨pin, ⟨tickets, hmem, ht'⟩, rfl⟩
  · rintro ⟨pin, ⟨tickets, hmem, ht⟩, rfl⟩
    exact ⟨(pin, tickets), hmem, t, ht, rfl⟩

end Batch

theorem mem_of_answerTo {t : Ticket} {answers : List (Ticket × LoadResult)} {r : LoadResult}
    (h : answerTo t answers = some r) : (t, r) ∈ answers := by
  obtain ⟨⟨t', r'⟩, hfound, rfl⟩ := Option.map_eq_some_iff.1 h
  have ht : t' = t := by simpa using List.find?_some hfound
  exact ht ▸ List.mem_of_find?_eq_some hfound

theorem isSome_answerTo {t : Ticket} {answers : List (Ticket × LoadResult)} {r : LoadResult}
    (h : (t, r) ∈ answers) : (answerTo t answers).isSome := by
  rw [answerTo, Option.isSome_map, List.find?_isSome]
  exact ⟨(t, r), h, by simp⟩

namespace Batch

/-- A ticket that waits for one pin gets what is given to that pin. -/
theorem answerTo_label {b : Batch} {next : Ticket} (hb : b.Issued next) (g : Pin → LoadResult)
    {pin : Pin} {t : Ticket} (h : t ∈ b.waiting pin) : answerTo t (b.label g) = some (g pin) := by
  obtain ⟨r, hr⟩ := Option.isSome_iff_exists.1 (isSome_answerTo (mem_label_iff.2 ⟨pin, h, rfl⟩))
  obtain ⟨pin', h', rfl⟩ := mem_label_iff.1 (mem_of_answerTo hr)
  rw [hr, hb.single h h']

/-- A ticket that does not wait in a batch gets nothing from it. -/
theorem answerTo_label_eq_none {b : Batch} (g : Pin → LoadResult) {t : Ticket}
    (h : ∀ pin, t ∉ b.waiting pin) : answerTo t (b.label g) = none := by
  cases hr : answerTo t (b.label g) with
  | none => rfl
  | some r =>
    obtain ⟨pin, ht, -⟩ := mem_label_iff.1 (mem_of_answerTo hr)
    exact absurd ht (h pin)

end Batch

/-! ### Scheduling and dispatching -/

namespace Loader

theorem waiting_load (l : Loader) (pin : Pin) (t : Ticket) (pin' : Pin) :
    (l.load pin t).pending.waiting pin'
      = if pin' = pin then l.pending.waiting pin ++ [t] else l.pending.waiting pin' :=
  l.pending.waiting_enqueue pin t pin'

/-- Scheduling several texts takes no ticket back. -/
theorem le_loadAll (l : Loader) (next : Ticket) (identities : List String) :
    next ≤ (l.loadAll next identities).2.2 := by
  induction identities generalizing l next with
  | nil => exact Nat.le_refl _
  | cons identity rest ih =>
    unfold loadAll
    split
    · rename_i pin hpin
      exact Nat.le_of_succ_le (ih (l.load pin next) (next + 1))
    · exact ih l next

/-- Scheduling several texts gives out tickets from the next one on. -/
theorem issued_loadAll {l : Loader} {next : Ticket} (h : l.pending.Issued next)
    (identities : List String) :
    (l.loadAll next identities).2.1.pending.Issued (l.loadAll next identities).2.2 := by
  induction identities generalizing l next with
  | nil => exact h
  | cons identity rest ih =>
    unfold loadAll
    split
    · rename_i pin hpin
      exact ih (l := l.load pin next) (h.enqueue pin)
    · exact ih h

/-- Scheduling several texts leaves the lines of earlier tickets alone. -/
theorem mem_waiting_loadAll {l : Loader} {next : Ticket} (identities : List String) {pin : Pin}
    {t : Ticket} (ht : t < next) :
    t ∈ (l.loadAll next identities).2.1.pending.waiting pin ↔ t ∈ l.pending.waiting pin := by
  induction identities generalizing l next with
  | nil => exact Iff.rfl
  | cons identity rest ih =>
    unfold loadAll
    split
    · rename_i pin' hpin'
      rw [ih (l := l.load pin' next) (Nat.lt_succ_of_lt ht), waiting_load]
      split
      · rename_i hpin
        simp [hpin, Nat.ne_of_lt ht]
      · exact Iff.rfl
    · exact ih ht

end Loader

/-- What a lookup of a pin comes to when its batch is fetched from a store.  It depends on the store
and the pin only, and not on what else is in the batch. -/
def Store.fetched (s : Store) (pin : Pin) : LoadResult :=
  match s.armed with
  | some message => .error (.fetch (.injected message))
  | none => .ok (s.tables.pinned? pin)

/-- The one query of a batch gives every waiting ticket what its pin comes to. -/
theorem Batch.answers_query (b : Batch) {s : Store} (ht : s.tables.Keyed) :
    b.answers (s.query fun t => t.select b.selection).1 = b.label s.fetched := by
  rw [answers_eq_label]
  refine label_congr fun hwaits => ?_
  unfold Store.query Store.fetched
  cases s.armed with
  | some message => rfl
  | none =>
    show Except.ok (PinnedDesign.lookup _ (s.tables.select b.selection)) = _
    rw [selection, Tables.lookup_select_forPins ht (mem_keys_of_mem_waiting hwaits)]

namespace Loader

/-- **A dispatch gives every waiting ticket what its pin comes to.** That the pins are fetched with
one query makes no difference to any of them. -/
theorem answers_dispatch (l : Loader) {s : Store} (ht : s.tables.Keyed) :
    (l.dispatch s).answers = l.pending.label s.fetched := by
  unfold dispatch
  simp only [take]
  split
  · rename_i hempty
    rw [Batch.label, List.isEmpty_iff.1 hempty]
    rfl
  · exact l.pending.answers_query ht

/-- A dispatch counts the pins that were asked for, or reports the failure of its one
query. -/
theorem result_dispatch (l : Loader) (s : Store) :
    (l.dispatch s).result =
      if l.pending.isEmpty then .ok 0
      else match s.armed with
        | some message => .error (.fetch (.injected message))
        | none => .ok l.pending.size := by
  unfold dispatch
  simp only [take]
  split
  · rfl
  · cases hs : s.armed <;> rw [Store.query, hs] <;> rfl

@[simp]
theorem pending_dispatch (l : Loader) (s : Store) : (l.dispatch s).loader.pending = .empty := by
  unfold dispatch
  simp only [take]
  split <;> rfl

end Loader

end DesignHistory
