import Mathlib.Data.List.Induction
import Mathlib.Data.List.Nodup
import DesignHistory.Loader.Overlap
import DesignHistory.Proofs.Loader.Tickets

/-!
# Where tickets are

While dispatches overlap, a ticket is with the loader, in one of the flights, or among the
landings.  Every move takes the tickets it moves away from where they were, so none gets
lost and none is in two places, whatever the moves are and in whatever order they come.

## Main definitions

* `Overlap.after`: where moves lead from the start.
* `Overlap.requested`: the pins that were looked up.
* `Overlap.tickets`: the tickets in all places.
* `Overlap.Numbered`: every flight has a number of its own, which was given out.
* `Overlap.Accounted`: the tickets in all places are those that were given out, each once.

## Main statements

* `Overlap.numbered_after`, `Overlap.accounted_after`: both hold after any moves.
* `Overlap.requested_of_mem_waiting`: every ticket waits for the pin that it was given for.
-/

namespace DesignHistory

/-! ### Tickets of a batch -/

namespace Batch

/-- A key before all keys of a list has no value in it. -/
private theorem find?_eq_none_of_before {k : Pin} {l : List (Pin × List Ticket)}
    (h : ∀ e ∈ l, KeyOrder.before k e.1 = true) : SortedMap.find? k l = none := by
  induction l with
  | nil => rfl
  | cons e rest ih =>
    have hfirst := h e List.mem_cons_self
    rw [SortedMap.find?, if_pos (by simp [hfirst])]
    exact ih fun e he => h e (List.mem_cons_of_mem _ he)

/-- The next ticket is added to the tickets of a batch.  It goes to the line of its pin and not to
the end, so that the tickets are the same only up to their order. -/
theorem tickets_enqueue (b : Batch) (pin : Pin) (t : Ticket) :
    (b.enqueue pin t).tickets.Perm (b.tickets ++ [t]) := by
  have hswap : ∀ tickets : List Ticket, ([t] ++ tickets).Perm (tickets ++ [t]) :=
    fun _ => List.perm_append_comm
  obtain ⟨l, hl⟩ := b
  show (((SortedMap.insertEntry pin ((SortedMap.find? pin l).getD [] ++ [t]) l).map
    Prod.snd).flatten).Perm ((l.map Prod.snd).flatten ++ [t])
  induction l with
  | nil => exact List.Perm.refl _
  | cons e rest ih =>
    obtain ⟨pin', tickets⟩ := e
    obtain ⟨hfirst, hrest⟩ := List.pairwise_cons.1 hl
    rw [SortedMap.insertEntry, SortedMap.find?]
    split
    · rename_i hbefore
      -- the entries are in order, so the pin is not further down either
      have hnone : SortedMap.find? pin rest = none := find?_eq_none_of_before fun e he =>
        KeyOrder.trans hbefore (hfirst e he)
      rw [if_pos (by simp [hbefore]), hnone]
      exact hswap _
    · split
      · rename_i hafter
        rw [if_pos (by simp [hafter])]
        simpa using (ih hrest).append_left tickets
      · rename_i hbefore hafter
        rw [if_neg (by simp [hbefore, hafter])]
        simpa using (hswap _).append_left tickets

theorem mem_tickets_of_mem_waiting {b : Batch} {pin : Pin} {t : Ticket}
    (h : t ∈ b.waiting pin) : t ∈ b.tickets := by
  obtain ⟨tickets, hentry, ht⟩ := mem_waiting_iff.1 h
  exact List.mem_flatten.2 ⟨tickets, List.mem_map.2 ⟨_, hentry, rfl⟩, ht⟩

theorem map_fst_label (b : Batch) (g : Pin → LoadResult) :
    (b.label g).map Prod.fst = b.tickets := by
  simp [label, tickets, SortedMap.values, List.flatMap, List.map_flatten, Function.comp_def]

theorem map_fst_answers (b : Batch) (fetched : Except StoreError (List PinnedDesign)) :
    (b.answers fetched).map Prod.fst = b.tickets := by
  rw [answers_eq_label, map_fst_label]

theorem map_fst_cancellations (b : Batch) : b.cancellations.map Prod.fst = b.tickets := by
  rw [cancellations_eq_label, map_fst_label]

end Batch

theorem Flight.map_ticket_land (f : Flight) (answers : List (Ticket × LoadResult)) :
    (f.land answers).map (fun l => l.ticket) = answers.map Prod.fst := by
  rw [land, List.map_map]
  rfl

namespace Overlap

/-! ### What a move does -/

/-- Where moves lead from the start.  Moves may come in any order, also such that name flights which
are not there: these do nothing. -/
def after (moves : List Move) : Overlap := run {} moves

theorem after_append (moves : List Move) (m : Move) :
    after (moves ++ [m]) = (after moves).move m := by
  rw [after, run, List.foldl_append]
  rfl

/-- The pin that a move schedules a lookup of. -/
def Move.pin? : Move → Option Pin
  | .load pin => some pin
  | _ => none

/-- The pins that were looked up in the course of moves, each in the place that its ticket has the
number of.  It is what a ticket is compared with, since tickets themselves carry no pin. -/
def requested (moves : List Move) : List Pin := moves.filterMap Move.pin?

theorem requested_append (moves : List Move) (m : Move) :
    requested (moves ++ [m]) = requested moves ++ m.pin?.toList := by
  rw [requested, List.filterMap_append]
  cases m <;> rfl

theorem getElem?_requested_append {moves : List Move} {t : Ticket} {pin : Pin}
    (h : (requested moves)[t]? = some pin) (more : List Move) :
    (requested (moves ++ more))[t]? = some pin := by
  obtain ⟨hlt, -⟩ := List.getElem?_eq_some_iff.1 h
  rw [requested, List.filterMap_append]
  exact (List.getElem?_append_left hlt).trans h

/-- What a move does: one of five things, or nothing.  Every invariant of overlapping dispatches is
shown from these cases, and no proof has to unfold a move. -/
inductive Effect (o : Overlap) : Move → Overlap → Prop
  | load (pin : Pin) : Effect o (.load pin)
      { o with loader := o.loader.load pin o.nextTicket, nextTicket := o.nextTicket + 1 }
  | take (h : o.loader.pending.isEmpty = false) : Effect o .take
      { o with
        loader := o.loader.take.2
        flights := o.flights ++ [{ number := o.nextFlight, batch := o.loader.pending }]
        nextFlight := o.nextFlight + 1 }
  | fetch {n : Nat} {f : Flight} (result : Except StoreError (List PinnedDesign))
      (h : o.flight? n = some f) : Effect o (.fetch n result)
      { o with
        flights := o.without n ++ [{ f with fetched := some result }]
        queries := o.queries + 1 }
  | fulfil {n : Nat} {f : Flight} {result : Except StoreError (List PinnedDesign)}
      (h : o.flight? n = some f) (hresult : f.fetched = some result) : Effect o (.fulfil n)
      { o with
        flights := o.without n
        landings := o.landings ++ f.land (f.batch.answers result) }
  | abandon {n : Nat} {f : Flight} (h : o.flight? n = some f) : Effect o (.abandon n)
      { o with
        flights := o.without n
        landings := o.landings ++ f.land f.batch.cancellations }
  | nothing {m : Move} (h : m.pin? = none) : Effect o m o

/-- A dispatch that finds nothing collected changes nothing. -/
theorem move_take_of_isEmpty {o : Overlap} (h : o.loader.pending.isEmpty = true) :
    o.move .take = o := by
  have hpending : o.loader.pending = .empty := SortedMap.ext (List.isEmpty_iff.1 h)
  have hloader : o.loader.take.2 = o.loader := by
    simp only [Loader.take, h, if_true]
    rw [← hpending]
  show (if o.loader.pending.isEmpty then { o with loader := o.loader.take.2 } else _) = o
  rw [if_pos h, hloader]

/-- A dispatch that finds something collected starts a flight. -/
theorem move_take_of_not_isEmpty {o : Overlap} (h : o.loader.pending.isEmpty = false) :
    o.move .take =
      { o with
        loader := o.loader.take.2
        flights := o.flights ++ [{ number := o.nextFlight, batch := o.loader.pending }]
        nextFlight := o.nextFlight + 1 } := by
  show (if o.loader.pending.isEmpty = true then _ else _) = _
  exact if_neg (by rw [h]; exact Bool.false_ne_true)

/-- Every move has one of the effects.  Invariants that hold of all flights at once are shown from
these cases, and not from the moves themselves. -/
theorem effect_move (o : Overlap) (m : Move) : o.Effect m (o.move m) := by
  cases m with
  | load pin => exact .load pin
  | take =>
    cases h : o.loader.pending.isEmpty with
    | true =>
      rw [move_take_of_isEmpty h]
      exact .nothing rfl
    | false =>
      rw [move_take_of_not_isEmpty h]
      exact .take h
  | fetch n result =>
    simp only [move]
    split
    · exact .nothing rfl
    · rename_i f hf
      split
      · exact .nothing rfl
      · exact .fetch result hf
  | fulfil n =>
    simp only [move]
    split
    · exact .nothing rfl
    · rename_i f hf
      split
      · exact .nothing rfl
      · rename_i result hresult
        exact .fulfil hf hresult
  | abandon n =>
    simp only [move]
    split
    · exact .nothing rfl
    · rename_i f hf
      exact .abandon hf

/-! ### Flights by number -/

/-- Every flight has a number of its own, which was given out, and so has every landing.  So a
number stands for the same flight at all times, even after the flight is gone. -/
structure Numbered (o : Overlap) : Prop where
  flight : ∀ f ∈ o.flights, f.number < o.nextFlight
  landing : ∀ l ∈ o.landings, l.flight < o.nextFlight
  nodup : (o.flights.map fun f => f.number).Nodup

theorem mem_of_flight? {o : Overlap} {n : Nat} {f : Flight} (h : o.flight? n = some f) :
    f ∈ o.flights ∧ f.number = n := by
  have hn := List.find?_some h
  exact ⟨List.mem_of_find?_eq_some h, beq_iff_eq.1 hn⟩

/-- A flight that is taken out is the only one of its number.  Taking out all flights of a number
would otherwise lose tickets. -/
theorem perm_without {o : Overlap} (ho : o.Numbered) {n : Nat} {f : Flight}
    (h : o.flight? n = some f) : o.flights.Perm (f :: o.without n) := by
  have hlist : ∀ l : List Flight, (l.map fun f => f.number).Nodup →
      (l.find? fun f => f.number == n) = some f →
      l.Perm (f :: l.filter fun f => f.number != n) := by
    intro l
    induction l with
    | nil =>
      intro _ h
      cases h
    | cons g rest ih =>
      intro hnodup h
      rw [List.map_cons, List.nodup_cons] at hnodup
      obtain ⟨hg, hrest⟩ := hnodup
      by_cases hn : g.number = n
      · rw [List.find?_cons_of_pos (by simp [hn])] at h
        obtain rfl := Option.some.inj h
        have hothers : rest.filter (fun f => f.number != n) = rest := by
          refine List.filter_eq_self.2 fun f hf => ?_
          rw [bne_iff_ne]
          rintro rfl
          exact hg (hn ▸ List.mem_map.2 ⟨f, hf, rfl⟩)
        rw [List.filter_cons_of_neg (by simp [hn]), hothers]
      · rw [List.find?_cons_of_neg (by simp [hn])] at h
        rw [List.filter_cons_of_pos (by simp [hn])]
        exact ((ih hrest h).cons g).trans (List.Perm.swap f g _)
  exact hlist o.flights ho.nodup h

theorem Numbered.nodup_without {o : Overlap} (ho : o.Numbered) (n : Nat) :
    ((o.without n).map fun f => f.number).Nodup :=
  ho.nodup.sublist (List.filter_sublist.map _)

theorem mem_without {o : Overlap} {n : Nat} {f : Flight} :
    f ∈ o.without n ↔ f ∈ o.flights ∧ f.number ≠ n := by
  rw [without, List.mem_filter, bne_iff_ne]

/-- One more flight, with a number that the others do not have. -/
theorem nodup_numbers_append {flights : List Flight} {f : Flight}
    (hflights : (flights.map fun f => f.number).Nodup)
    (hf : ∀ g ∈ flights, g.number ≠ f.number) :
    ((flights ++ [f]).map fun f => f.number).Nodup := by
  rw [List.map_append]
  refine List.nodup_append.2 ⟨hflights, List.nodup_singleton _, ?_⟩
  rintro n hn n' hn' rfl
  obtain ⟨g, hg, rfl⟩ := List.mem_map.1 hn
  exact hf g hg (List.mem_singleton.1 hn')

/-- What a move does keeps the numbers apart. -/
theorem Effect.numbered {o o' : Overlap} {m : Move} (h : o.Effect m o') (ho : o.Numbered) :
    o'.Numbered := by
  have hland : ∀ {n f answers}, o.flight? n = some f → ∀ l ∈ o.landings ++ f.land answers,
      l.flight < o.nextFlight := by
    intro n f answers hf l hl
    rcases List.mem_append.1 hl with hl | hl
    · exact ho.landing l hl
    · obtain ⟨a, -, rfl⟩ := List.mem_map.1 hl
      exact ho.flight f (mem_of_flight? hf).1
  cases h with
  | load pin => exact ⟨ho.flight, ho.landing, ho.nodup⟩
  | take h =>
    refine ⟨?_, fun l hl => Nat.lt_succ_of_lt (ho.landing l hl), ?_⟩
    · intro f hf
      rcases List.mem_append.1 hf with hf | hf
      · exact Nat.lt_succ_of_lt (ho.flight f hf)
      · rw [List.mem_singleton.1 hf]
        exact Nat.lt_succ_self _
    · exact nodup_numbers_append ho.nodup fun f hf => Nat.ne_of_lt (ho.flight f hf)
  | @fetch n f result hf =>
    obtain ⟨hmem, hnumber⟩ := mem_of_flight? hf
    refine ⟨?_, ho.landing, ?_⟩
    · intro g hg
      rcases List.mem_append.1 hg with hg | hg
      · exact ho.flight g (mem_without.1 hg).1
      · rw [List.mem_singleton.1 hg]
        exact ho.flight f hmem
    · refine nodup_numbers_append (ho.nodup_without n) fun g hg hsame => ?_
      exact (mem_without.1 hg).2 (hsame.trans hnumber)
  | @fulfil n f result hf hresult =>
    exact ⟨fun g hg => ho.flight g (mem_without.1 hg).1, hland hf, ho.nodup_without n⟩
  | @abandon n f hf =>
    exact ⟨fun g hg => ho.flight g (mem_without.1 hg).1, hland hf, ho.nodup_without n⟩
  | nothing => exact ho

/-! ### Tickets in all places -/

/-- The tickets in the flights. -/
def aloft (o : Overlap) : List Ticket := o.flights.flatMap fun f => f.batch.tickets

/-- The tickets that were answered. -/
def landed (o : Overlap) : List Ticket := o.landings.map fun l => l.ticket

/-- The tickets in all places: with the loader, in the flights, and answered. -/
def tickets (o : Overlap) : List Ticket := o.loader.pending.tickets ++ o.aloft ++ o.landed

/-- The tickets in all places are those that were given out, each once.  Being a permutation it says
both that no ticket is lost and that none is in two places. -/
def Accounted (o : Overlap) : Prop := o.tickets.Perm (List.range o.nextTicket)

theorem count_tickets (o : Overlap) (t : Ticket) :
    o.tickets.count t
      = o.loader.pending.tickets.count t + o.aloft.count t + o.landed.count t := by
  rw [tickets, List.count_append, List.count_append]

/-- Of the tickets in the flights, those of one flight and those of the others. -/
theorem count_aloft {o : Overlap} (ho : o.Numbered) {n : Nat} {f : Flight}
    (hf : o.flight? n = some f) (t : Ticket) :
    o.aloft.count t = f.batch.tickets.count t
      + ((o.without n).flatMap fun f => f.batch.tickets).count t := by
  rw [aloft, ((perm_without ho hf).flatMap_right fun f => f.batch.tickets).count_eq t,
    List.flatMap_cons, List.count_append]

/-- Tickets that are moved from one place to another are accounted for. -/
theorem Accounted.of_count {o o' : Overlap} (h : o.Accounted) (hnext : o'.nextTicket = o.nextTicket)
    (hcount : ∀ t, o'.tickets.count t = o.tickets.count t) : o'.Accounted := by
  unfold Accounted
  rw [hnext]
  exact (List.perm_iff_count.2 hcount).trans h

/-- A flight that lands with answers for its tickets has them among the landings. -/
theorem accounted_land {o : Overlap} (ho : o.Numbered) (hacc : o.Accounted) {n : Nat}
    {f : Flight} (hf : o.flight? n = some f) {answers : List (Ticket × LoadResult)}
    (hanswers : answers.map Prod.fst = f.batch.tickets) :
    ({ o with
      flights := o.without n
      landings := o.landings ++ f.land answers } : Overlap).Accounted := by
  refine hacc.of_count rfl fun t => ?_
  have hlanded : ((o.landings ++ f.land answers).map fun l => l.ticket).count t
      = o.landed.count t + f.batch.tickets.count t := by
    rw [List.map_append, f.map_ticket_land, hanswers, List.count_append, landed]
  rw [count_tickets, count_tickets, count_aloft ho hf]
  show o.loader.pending.tickets.count t
    + ((o.without n).flatMap fun f => f.batch.tickets).count t
    + ((o.landings ++ f.land answers).map fun l => l.ticket).count t = _
  omega

/-- What a move does accounts for the tickets.  A move takes tickets from one place to another and
never drops one. -/
theorem Effect.accounted {o o' : Overlap} {m : Move} (h : o.Effect m o') (ho : o.Numbered)
    (hacc : o.Accounted) : o'.Accounted := by
  -- tickets go from one place to the next one, so each is counted as often as before
  cases h with
  | load pin =>
    refine List.perm_iff_count.2 fun t => ?_
    have hpending := (o.loader.pending.tickets_enqueue pin o.nextTicket).count_eq t
    have hold := List.Perm.count_eq hacc t
    rw [List.count_append] at hpending
    rw [count_tickets] at hold
    rw [count_tickets, List.range_succ, List.count_append, ← hold]
    show (o.loader.pending.enqueue pin o.nextTicket).tickets.count t + o.aloft.count t
      + o.landed.count t = _
    omega
  | take h =>
    refine hacc.of_count rfl fun t => ?_
    have haloft : ((o.flights ++ [(⟨o.nextFlight, o.loader.pending, none⟩ : Flight)]).flatMap
        fun f => f.batch.tickets).count t
          = o.aloft.count t + o.loader.pending.tickets.count t := by
      rw [List.flatMap_append, List.flatMap_singleton, List.count_append, aloft]
    have hnone : o.loader.take.2.pending.tickets.count t = 0 := rfl
    rw [count_tickets, count_tickets, aloft, haloft, hnone]
    show 0 + (o.aloft.count t + o.loader.pending.tickets.count t) + o.landed.count t = _
    omega
  | @fetch n f result hf =>
    refine hacc.of_count rfl fun t => ?_
    have haloft : ((o.without n ++ [{ f with fetched := some result }]).flatMap
        fun f : Flight => f.batch.tickets).count t = o.aloft.count t := by
      rw [List.flatMap_append, List.flatMap_singleton, List.count_append, count_aloft ho hf]
      exact Nat.add_comm _ _
    rw [count_tickets, count_tickets, aloft, haloft, landed, landed]
  | @fulfil n f result hf hresult =>
    exact accounted_land ho hacc hf (f.batch.map_fst_answers result)
  | @abandon n f hf => exact accounted_land ho hacc hf f.batch.map_fst_cancellations
  | nothing => exact hacc

/-- A move gives out a ticket if it is a load. -/
theorem Effect.nextTicket_eq {o o' : Overlap} {m : Move} (h : o.Effect m o') :
    o'.nextTicket = o.nextTicket + m.pin?.toList.length := by
  cases h with
  | nothing h =>
    rw [h]
    rfl
  | _ => rfl

/-! ### All interleavings -/

/-- What holds at the start and is kept by every move holds after any moves. -/
theorem after_induction {P : Overlap → Prop} (hstart : P {})
    (hmove : ∀ o m, P o → P (o.move m)) (moves : List Move) : P (after moves) := by
  induction moves using List.reverseRecOn with
  | nil => exact hstart
  | append_singleton moves m ih =>
    rw [after_append]
    exact hmove _ m ih

/-- After any moves every flight has a number of its own. -/
theorem numbered_after (moves : List Move) : (after moves).Numbered := by
  refine after_induction ⟨?_, ?_, List.nodup_nil⟩ (fun o m h => (o.effect_move m).numbered h) moves
  · intro f hf
    cases hf
  · intro l hl
    cases hl

/-- **After any moves the tickets in all places are those that were given out, each once.** -/
theorem accounted_after (moves : List Move) : (after moves).Accounted := by
  refine (after_induction (P := fun o => o.Numbered ∧ o.Accounted)
    ⟨numbered_after [], List.Perm.refl _⟩ ?_ moves).2
  intro o m ⟨ho, hacc⟩
  exact ⟨(o.effect_move m).numbered ho, (o.effect_move m).accounted ho hacc⟩

/-- After any moves a ticket was given out for every lookup. -/
theorem nextTicket_after (moves : List Move) :
    (after moves).nextTicket = (requested moves).length := by
  induction moves using List.reverseRecOn with
  | nil => rfl
  | append_singleton moves m ih =>
    rw [after_append, ((after moves).effect_move m).nextTicket_eq, ih, requested_append,
      List.length_append]

/-- A ticket waits for the pin that was looked up when it was given out.  The tickets are the
positions in the list of what was looked up, so nothing has to be remembered. -/
theorem requested_of_mem_waiting {moves : List Move} {pin : Pin} {t : Ticket}
    (h : t ∈ (after moves).loader.pending.waiting pin) : (requested moves)[t]? = some pin := by
  induction moves using List.reverseRecOn with
  | nil => cases h
  | append_singleton moves m ih =>
    rw [after_append] at h
    have heffect := (after moves).effect_move m
    generalize (after moves).move m = o' at h heffect
    cases heffect with
    | load pin' =>
      rcases Batch.waiting_or_eq_of_enqueue h with h | ⟨rfl, rfl⟩
      · exact getElem?_requested_append (ih h) _
      · rw [nextTicket_after, requested_append]
        exact List.getElem?_concat_length
    | take hbatch => cases h
    | _ => exact getElem?_requested_append (ih h) _

end Overlap

end DesignHistory
