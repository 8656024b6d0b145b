import Mathlib.Data.List.Pairwise
import DesignHistory.Proofs.Loader.Courses

/-!
# What overlapping dispatches deliver

Where tickets are and how flights go on their way come together here: however loads,
dispatches, answers of the store and dispatches that are given up are interleaved, every
lookup waits in one place until it is answered once, by the flight that took it.

## Main statements

* `Overlap.run_dispatch`: the moves of a dispatch that nothing comes between do what
  `Loader.dispatch` does.
* `Overlap.place_of_unanswered`: where the ticket of a lookup is that has no answer.
* `Overlap.exists_of_mem_landings`: where an answer comes from.
* `Overlap.delivered_once`: what becomes of lookups in all interleavings.
-/

namespace DesignHistory.Overlap

open Flight (Stage)

/-! ### A dispatch on its own -/

/-- A flight with the next number is taken out again. -/
theorem filter_append_self {o : Overlap} (ho : o.Numbered) {f : Flight}
    (hf : f.number = o.nextFlight) :
    (o.flights ++ [f]).filter (fun g => g.number != o.nextFlight) = o.flights := by
  have hold : o.flights.filter (fun g => g.number != o.nextFlight) = o.flights :=
    List.filter_eq_self.2 fun g hg => bne_iff_ne.2 (Nat.ne_of_lt (ho.flight g hg))
  rw [List.filter_append, hold, List.filter_cons_of_neg (by simp [hf]), List.filter_nil,
    List.append_nil]

theorem find?_append_self {o : Overlap} (ho : o.Numbered) {f : Flight}
    (hf : f.number = o.nextFlight) :
    (o.flights ++ [f]).find? (fun g => g.number == o.nextFlight) = some f := by
  have hold : o.flights.find? (fun g => g.number == o.nextFlight) = none :=
    List.find?_eq_none.2 fun g hg => by simp [Nat.ne_of_lt (ho.flight g hg)]
  rw [List.find?_append, hold, List.find?_cons_of_pos (by simp [hf]), Option.none_or]

/-- A dispatch that nothing comes between asks the store once and answers its tickets, as a dispatch
in one piece does.  So what is proved about overlapping dispatches is about the loader of a session,
too. -/
theorem run_dispatch {o : Overlap} (ho : o.Numbered) (h : o.loader.pending.isEmpty = false)
    (s : Store) :
    o.run [.take, .fetch o.nextFlight (s.query fun t => t.select o.loader.pending.selection).1,
        .fulfil o.nextFlight]
      = { o with
          loader := (o.loader.dispatch s).loader
          landings := o.landings ++ Flight.land ⟨o.nextFlight, o.loader.pending, none⟩
            (o.loader.dispatch s).answers
          nextFlight := o.nextFlight + 1
          queries := o.queries + 1 } := by
  have hloader : (o.loader.dispatch s).loader = o.loader.take.2 := by
    simp only [Loader.dispatch, Loader.take, h]
    rfl
  have hanswers : (o.loader.dispatch s).answers
      = o.loader.pending.answers (s.query fun t => t.select o.loader.pending.selection).1 := by
    simp only [Loader.dispatch, Loader.take, h]
    rfl
  -- from here on it does not matter what the store answers
  generalize (s.query fun t => t.select o.loader.pending.selection).1 = fetched at hanswers
  have hasked := find?_append_self ho (f := ⟨o.nextFlight, o.loader.pending, none⟩) rfl
  have hasking := filter_append_self ho (f := ⟨o.nextFlight, o.loader.pending, none⟩) rfl
  have hanswered := find?_append_self ho (f := ⟨o.nextFlight, o.loader.pending, some fetched⟩) rfl
  have hlanding := filter_append_self ho (f := ⟨o.nextFlight, o.loader.pending, some fetched⟩) rfl
  rw [run, List.foldl_cons, move_take_of_not_isEmpty h, hloader, hanswers]
  simp only [List.foldl_cons, List.foldl_nil, move, flight?, without, hasked, hasking,
    hanswered, hlanding, Option.isSome_none, Bool.false_eq_true, if_false]
  rfl

/-! ### Lookups without an answer -/

/-- A ticket that was given out and not answered waits with the loader and in no flight, or in one
flight and not with the loader.  It follows from counting alone. -/
theorem place_of_unanswered {o : Overlap} (h : o.Accounted) {t : Ticket}
    (ht : t < o.nextTicket) (hnone : t ∉ o.landed) :
    (t ∈ o.loader.pending.tickets ∧ ∀ f ∈ o.flights, t ∉ f.batch.tickets)
      ∨ t ∉ o.loader.pending.tickets ∧ ∃! f, f ∈ o.flights ∧ t ∈ f.batch.tickets := by
  have hnodup : (o.loader.pending.tickets ++ o.aloft).Nodup :=
    (List.nodup_append.1 (h.nodup_iff.2 List.nodup_range)).1
  obtain ⟨-, haloft, hapart⟩ := List.nodup_append.1 hnodup
  have hplace : t ∈ o.loader.pending.tickets ∨ t ∈ o.aloft := by
    have hmem : t ∈ o.tickets := h.mem_iff.2 (List.mem_range.2 ht)
    rcases List.mem_append.1 hmem with hmem | hmem
    · exact List.mem_append.1 hmem
    · exact absurd hmem hnone
  rcases hplace with hpending | hflown
  · refine .inl ⟨hpending, fun f hf htf => ?_⟩
    exact hapart t hpending t (List.mem_flatMap.2 ⟨f, hf, htf⟩) rfl
  · refine .inr ⟨fun hpending => hapart t hpending t hflown rfl, ?_⟩
    obtain ⟨f, hf, htf⟩ := List.mem_flatMap.1 hflown
    refine ⟨f, ⟨hf, htf⟩, ?_⟩
    rintro g ⟨hg, htg⟩
    by_contra hne
    -- two flights have no ticket in common
    have hsymm : Std.Symm (Function.onFun List.Disjoint fun f : Flight => f.batch.tickets) :=
      ⟨fun _ _ h _ htb hta => h hta htb⟩
    exact (List.nodup_flatMap.1 haloft).2.forall hg hf hne htg htf

/-! ### Answers -/

/-- Every landing is of a flight that was taken, and brings for the pin that was looked up
what the course of the flight says. -/
theorem exists_of_mem_landings {moves : List Move} {l : Landing}
    (h : l ∈ (after moves).landings) :
    ∃ batch later, TookOff moves l.flight batch later
      ∧ ∃ pin, (requested moves)[l.ticket]? = some pin ∧ l.ticket ∈ batch.waiting pin
        ∧ ((∃ result, Stage.after l.flight later = .fulfilled result
            ∧ l.result
              = (result.map fun records => PinnedDesign.lookup pin records).mapError .fetch)
          ∨ (∃ result, Stage.after l.flight later = .abandoned result)
            ∧ l.result = .error .cancelled) := by
  obtain ⟨batch, later, htook⟩ := exists_tookOff ((numbered_after moves).landing l h)
  have hmem : l ∈ (after moves).landingsOf l.flight :=
    List.mem_filter.2 ⟨h, beq_self_eq_true _⟩
  rw [(atStage_after htook).landings] at hmem
  obtain ⟨pin, hpin, hresult⟩ := Stage.exists_of_mem_landings hmem
  have hrequested : (requested moves)[l.ticket]? = some pin := by
    obtain ⟨first, rfl, -, rfl, -⟩ := htook
    exact getElem?_requested_append (requested_of_mem_waiting hpin) _
  exact ⟨batch, later, htook, pin, hrequested, hpin, hresult⟩

theorem landings_move (o : Overlap) (m : Move) : o.landings <+: (o.move m).landings := by
  have heffect := o.effect_move m
  generalize o.move m = o' at heffect ⊢
  cases heffect with
  | fulfil h hresult => exact List.prefix_append _ _
  | abandon h => exact List.prefix_append _ _
  | _ => exact List.prefix_rfl

/-- Answers that were given stay, whatever the moves are that follow. -/
theorem landings_after_append (moves more : List Move) :
    (after moves).landings <+: (after (moves ++ more)).landings := by
  induction more using List.reverseRecOn with
  | nil => simp
  | append_singleton more m ih =>
    rw [← List.append_assoc, after_append]
    exact ih.trans (landings_move _ m)

/-- A ticket of a flight was given out before the batch of the flight was taken. -/
theorem ticket_lt_of_tookOff {moves first later : List Move}
    (hmoves : moves = first ++ .take :: later)
    (htaken : (after first).loader.pending.isEmpty = false) {l : Landing}
    (h : l ∈ (after moves).landings) (hflight : l.flight = (after first).nextFlight) :
    l.ticket < (after first).nextTicket := by
  have htook : TookOff moves l.flight (after first).loader.pending later :=
    ⟨first, hmoves, hflight.symm, rfl, htaken⟩
  have hmem : l ∈ (after moves).landingsOf l.flight :=
    List.mem_filter.2 ⟨h, beq_self_eq_true _⟩
  rw [(atStage_after htook).landings] at hmem
  obtain ⟨pin, hpin, -⟩ := Stage.exists_of_mem_landings hmem
  have hticket : l.ticket ∈ (after first).tickets :=
    List.mem_append_left _ (List.mem_append_left _ (Batch.mem_tickets_of_mem_waiting hpin))
  exact List.mem_range.1 ((accounted_after first).mem_iff.1 hticket)

/-- **However dispatches overlap, every lookup is delivered once.** The tickets of the lookups are
in all places together, each once; one without an answer waits with the loader or in one flight; one
that has an answer has it from the flight that took it, for the pin that was looked up and as the
course of this flight says, and keeps it; a lookup is never answered by a batch that was taken
before it; and there are as many queries as flights that the store has answered. -/
theorem delivered_once (moves : List Move) :
    (after moves).tickets.Perm (List.range (requested moves).length)
      ∧ (∀ t < (requested moves).length, t ∉ (after moves).landed →
        (t ∈ (after moves).loader.pending.tickets
            ∧ ∀ f ∈ (after moves).flights, t ∉ f.batch.tickets)
          ∨ t ∉ (after moves).loader.pending.tickets
            ∧ ∃! f, f ∈ (after moves).flights ∧ t ∈ f.batch.tickets)
      ∧ ((after moves).landed.Nodup
        ∧ ∀ more, (after moves).landings <+: (after (moves ++ more)).landings)
      ∧ (∀ l ∈ (after moves).landings, ∃ batch later, TookOff moves l.flight batch later
        ∧ ∃ pin, (requested moves)[l.ticket]? = some pin ∧ l.ticket ∈ batch.waiting pin
          ∧ ((∃ result, Stage.after l.flight later = .fulfilled result
              ∧ l.result
                = (result.map fun records => PinnedDesign.lookup pin records).mapError .fetch)
            ∨ (∃ result, Stage.after l.flight later = .abandoned result)
              ∧ l.result = .error .cancelled))
      ∧ (∀ first between pin later,
        moves = first ++ .take :: (between ++ .load pin :: later) →
        (after first).loader.pending.isEmpty = false →
        ∀ l ∈ (after moves).landings, l.ticket = (requested (first ++ .take :: between)).length →
          l.flight ≠ (after first).nextFlight)
      ∧ ∃ fetched : List Nat, fetched.Nodup ∧ fetched.length = (after moves).queries
        ∧ ∀ n, n ∈ fetched ↔ WasFetched moves n := by
  have hacc := accounted_after moves
  have hrange : (after moves).tickets.Perm (List.range (requested moves).length) := by
    rw [← nextTicket_after]
    exact hacc
  refine ⟨hrange, ?_, ⟨?_, landings_after_append moves⟩, fun l hl => exists_of_mem_landings hl,
    ?_, exists_fetched moves⟩
  · intro t ht hnone
    rw [← nextTicket_after] at ht
    exact place_of_unanswered hacc ht hnone
  · exact (List.nodup_append.1 (hrange.nodup_iff.2 List.nodup_range)).2.1
  · intro first between pin later hmoves htaken l hl hticket hflight
    have hlt := ticket_lt_of_tookOff hmoves htaken hl hflight
    rw [hticket, nextTicket_after, requested, requested, List.filterMap_append,
      List.length_append] at hlt
    exact absurd hlt (Nat.not_lt.2 (Nat.le_add_right _ _))

/-- Two flights with one lookup each; the first is given up while the second is under way. -/
def crossing : List Move :=
  [.load ⟨1, 2⟩, .take, .load ⟨1, 2⟩, .take, .fetch 1 (.ok []), .abandon 0, .fulfil 1]

/-- On the way the first lookup waits in one flight; at the end both are answered, and the
second one not by the first flight. -/
theorem delivered_once_of_crossing :
    (∃! f, f ∈ (after (crossing.take 4)).flights ∧ 0 ∈ f.batch.tickets)
      ∧ (after crossing).landed = [0, 1] ∧ (after crossing).tickets.Perm [0, 1]
      ∧ (∃ batch later, TookOff crossing 1 batch later
        ∧ ∃ pin, (requested crossing)[1]? = some pin ∧ 1 ∈ batch.waiting pin)
      ∧ ∀ l ∈ (after crossing).landings, l.ticket = 1 → l.flight ≠ 0 := by
  obtain ⟨-, hplace, -⟩ := delivered_once (crossing.take 4)
  obtain ⟨hperm, -, -, hlanding, hlater, -⟩ := delivered_once crossing
  have hpending : (after (crossing.take 4)).loader.pending.tickets = [] := rfl
  have hflown : ∃! f, f ∈ (after (crossing.take 4)).flights ∧ 0 ∈ f.batch.tickets := by
    rcases hplace 0 (by decide) List.not_mem_nil with ⟨hwaits, -⟩ | ⟨-, hflight⟩
    · rw [hpending] at hwaits
      cases hwaits
    · exact hflight
  have hmem : (⟨1, 1, .ok none⟩ : Landing) ∈ (after crossing).landings :=
    List.mem_cons_of_mem _ List.mem_cons_self
  obtain ⟨batch, later, htook, pin, hrequested, hpin, -⟩ := hlanding _ hmem
  exact ⟨hflown, rfl, hperm, ⟨batch, later, htook, pin, hrequested, hpin⟩,
    hlater [.load ⟨1, 2⟩] [] ⟨1, 2⟩ _ rfl rfl⟩

end DesignHistory.Overlap
