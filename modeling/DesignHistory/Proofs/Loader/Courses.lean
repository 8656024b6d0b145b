import DesignHistory.Proofs.Loader.Accounts

/-!
# The course of a flight

A flight is under way until its tickets are answered or it is given up, and what becomes of
it depends on the moves that name it and on nothing else: whatever other flights do, and
whatever is loaded meanwhile, its tickets get what the store answered for its own batch.

## Main definitions

* `Flight.Stage`: how far a dispatch has come, and `Flight.Stage.next`, what a move does.
* `Overlap.TookOff`: a batch that was taken in the course of moves.
* `Overlap.AtStage`: a flight is where its stage says, and has brought what it says.

## Main statements

* `Overlap.atStage_move`, `Overlap.atStage_after`: every flight goes through its stages.
* `Overlap.exists_tookOff`: every flight was taken by one of the moves.
* `Overlap.exists_fetched`: the flights that the store has answered are counted.
-/

namespace DesignHistory

/-! ### Stages -/

/-- How far a dispatch has come since it took its batch.  A stage keeps what the store has answered,
also when the dispatch was given up afterwards. -/
inductive Flight.Stage where
  /-- The store has not answered. -/
  | asking
  | fetched (result : Except StoreError (List PinnedDesign))
  /-- The tickets got what the store answered. -/
  | fulfilled (result : Except StoreError (List PinnedDesign))
  /-- The dispatch was given up, possibly after the store had answered. -/
  | abandoned (fetched : Option (Except StoreError (List PinnedDesign)))

/-- The flight that a move names. -/
def Overlap.Move.flight? : Overlap.Move → Option Nat
  | .fetch n _ | .fulfil n | .abandon n => some n
  | _ => none

/-- The moves that name a flight. -/
theorem Overlap.Move.eq_of_flight? {m : Overlap.Move} {n : Nat} (h : m.flight? = some n) :
    (∃ result, m = .fetch n result) ∨ m = .fulfil n ∨ m = .abandon n := by
  cases m with
  | load pin => cases h
  | take => cases h
  | fetch k result =>
    obtain rfl := Option.some.inj h
    exact .inl ⟨result, rfl⟩
  | fulfil k =>
    obtain rfl := Option.some.inj h
    exact .inr (.inl rfl)
  | abandon k =>
    obtain rfl := Option.some.inj h
    exact .inr (.inr rfl)

namespace Flight.Stage

open Overlap (Move)

/-- What a move does to the dispatch of a flight.  A flight that has been answered or given up goes
no further, and a move that comes too early is passed over. -/
def next (n : Nat) : Stage → Move → Stage
  | .asking, .fetch m result => if m = n then .fetched result else .asking
  | .fetched result, .fulfil m => if m = n then .fulfilled result else .fetched result
  | .asking, .abandon m => if m = n then .abandoned none else .asking
  | .fetched result, .abandon m => if m = n then .abandoned (some result) else .fetched result
  | stage, _ => stage

/-- How far the dispatch of a flight has come after moves. -/
def after (n : Nat) (moves : List Move) : Stage := moves.foldl (next n) .asking

/-- Whether the store has answered a dispatch. -/
def wasFetched : Stage → Bool
  | .asking => false
  | .fetched _ | .fulfilled _ => true
  | .abandoned result => result.isSome

/-- The flight of a number and a batch, as long as it is under way. -/
def flight? (n : Nat) (batch : Batch) : Stage → Option Flight
  | .asking => some ⟨n, batch, none⟩
  | .fetched result => some ⟨n, batch, some result⟩
  | _ => none

/-- What a flight of a number and a batch has brought. -/
def landings (n : Nat) (batch : Batch) : Stage → List Landing
  | .fulfilled result => Flight.land ⟨n, batch, none⟩ (batch.answers result)
  | .abandoned _ => Flight.land ⟨n, batch, none⟩ batch.cancellations
  | _ => []

/-- A move that does not name a flight leaves its dispatch alone. -/
theorem next_of_ne {n : Nat} {m : Move} (h : m.flight? ≠ some n) (stage : Stage) :
    stage.next n m = stage := by
  cases m with
  | load pin => cases stage <;> rfl
  | take => cases stage <;> rfl
  | fetch k result =>
    have hk : k ≠ n := fun hk => h (congrArg some hk)
    cases stage <;> simp [next, hk]
  | fulfil k =>
    have hk : k ≠ n := fun hk => h (congrArg some hk)
    cases stage <;> simp [next, hk]
  | abandon k =>
    have hk : k ≠ n := fun hk => h (congrArg some hk)
    cases stage <;> simp [next, hk]

/-- What lands with a flight is a ticket of its batch with what the ticket was given. -/
theorem exists_of_mem_land {n : Nat} {batch : Batch} {g : Pin → LoadResult} {l : Landing}
    (h : l ∈ Flight.land ⟨n, batch, none⟩ (batch.label g)) :
    ∃ pin, l.ticket ∈ batch.waiting pin ∧ l.result = g pin := by
  obtain ⟨a, ha, rfl⟩ := List.mem_map.1 h
  exact Batch.mem_label_iff.1 ha

/-- A flight brings each of its tickets what the store answered for its pin, or the news that the
dispatch was given up.  Which of the two it is depends on the flight and not on the ticket. -/
theorem exists_of_mem_landings {n : Nat} {batch : Batch} {stage : Stage} {l : Landing}
    (h : l ∈ stage.landings n batch) :
    ∃ pin, l.ticket ∈ batch.waiting pin
      ∧ ((∃ result, stage = .fulfilled result
          ∧ l.result = (result.map fun records => PinnedDesign.lookup pin records).mapError .fetch)
        ∨ (∃ result, stage = .abandoned result) ∧ l.result = .error .cancelled) := by
  cases stage with
  | asking => cases h
  | fetched result => cases h
  | fulfilled result =>
    rw [landings, Batch.answers_eq_label] at h
    obtain ⟨pin, hpin, hresult⟩ := exists_of_mem_land h
    exact ⟨pin, hpin, .inl ⟨result, rfl, hresult⟩⟩
  | abandoned result =>
    rw [landings, Batch.cancellations_eq_label] at h
    obtain ⟨pin, hpin, hresult⟩ := exists_of_mem_land h
    exact ⟨pin, hpin, .inr ⟨⟨result, rfl⟩, hresult⟩⟩

/-- A flight that is not under way any more stays where it is. -/
theorem next_of_landed {n : Nat} {batch : Batch} {stage : Stage}
    (h : stage.flight? n batch = none) (m : Move) : stage.next n m = stage := by
  cases stage with
  | asking => cases h
  | fetched result => cases h
  | fulfilled result => cases m <;> rfl
  | abandoned result => cases m <;> rfl

/-- The store answers a dispatch once. -/
theorem wasFetched_next_iff {n : Nat} {stage : Stage} {m : Move} :
    (stage.next n m).wasFetched = true
      ↔ stage.wasFetched = true ∨ stage = .asking ∧ ∃ result, m = .fetch n result := by
  by_cases hm : m.flight? = some n
  · rcases Move.eq_of_flight? hm with ⟨result, rfl⟩ | rfl | rfl <;> cases stage <;>
      simp [next, wasFetched]
  · have hfetch : ¬(stage = .asking ∧ ∃ result, m = .fetch n result) := by
      rintro ⟨-, result, rfl⟩
      exact hm rfl
    rw [stage.next_of_ne hm, or_iff_left hfetch]

end Flight.Stage

namespace Overlap

open Flight (Stage)

/-! ### One flight among others -/

/-- What a flight has brought. -/
def landingsOf (o : Overlap) (n : Nat) : List Landing := o.landings.filter fun l => l.flight == n

/-- The landings of one flight are of that flight. -/
theorem filter_land {f : Flight} {n : Nat} (answers : List (Ticket × LoadResult)) :
    (f.land answers).filter (fun l => l.flight == n)
      = if f.number = n then f.land answers else [] := by
  have hnumber : ∀ l ∈ f.land answers, l.flight = f.number := by
    intro l hl
    obtain ⟨a, -, rfl⟩ := List.mem_map.1 hl
    rfl
  split
  · rename_i hn
    exact List.filter_eq_self.2 fun l hl => beq_iff_eq.2 ((hnumber l hl).trans hn)
  · rename_i hn
    refine List.filter_eq_nil_iff.2 fun l hl => ?_
    rw [beq_iff_eq, hnumber l hl]
    exact hn

/-- What is found for a number among the flights that are left when one is taken out. -/
theorem find?_without (o : Overlap) (k n : Nat) :
    (o.without k).find? (fun f => f.number == n) = if k = n then none else o.flight? n := by
  rw [without, List.find?_filter]
  split
  · rename_i hk
    refine List.find?_eq_none.2 fun f _ => ?_
    by_cases hf : f.number = n <;> simp [hk, hf]
  · rename_i hk
    refine congrArg (fun p => o.flights.find? p) (funext fun f => ?_)
    by_cases hf : f.number = n
    · simp [hf, Ne.symm hk]
    · simp [hf]

/-- What is found for a number when one flight is put in the place of another one. -/
theorem find?_replace (o : Overlap) {k : Nat} (f : Flight) (hf : f.number = k) (n : Nat) :
    (o.without k ++ [f]).find? (fun f => f.number == n)
      = if k = n then some f else o.flight? n := by
  rw [List.find?_append, find?_without]
  split
  · rename_i hk
    simp [hf, hk]
  · rename_i hk
    simp [hf, hk]

/-- What a move does leaves a flight alone that it does not name, and brings nothing from
it. -/
theorem Effect.frame {o o' : Overlap} {m : Move} (h : o.Effect m o') {n : Nat}
    (hn : n < o.nextFlight) (hm : m.flight? ≠ some n) :
    o'.flight? n = o.flight? n ∧ o'.landingsOf n = o.landingsOf n := by
  -- a flight that lands leaves the landings of the others as they were
  have hland : ∀ {k f answers}, k ≠ n → o.flight? k = some f →
      (o.landings ++ f.land answers).filter (fun l => l.flight == n) = o.landingsOf n := by
    intro k f answers hk hf
    have hnumber : f.number ≠ n := (mem_of_flight? hf).2.symm ▸ hk
    rw [List.filter_append, filter_land, if_neg hnumber, List.append_nil, landingsOf]
  cases h with
  | load pin => exact ⟨rfl, rfl⟩
  | take h =>
    refine ⟨?_, rfl⟩
    show (o.flights ++ [(⟨o.nextFlight, o.loader.pending, none⟩ : Flight)]).find? _ = o.flight? n
    simp [List.find?_append, Nat.ne_of_gt hn, flight?]
  | @fetch k f result hf =>
    have hk : k ≠ n := fun hk => hm (congrArg some hk)
    refine ⟨?_, rfl⟩
    have hnumber := (mem_of_flight? hf).2
    exact (o.find?_replace { f with fetched := some result } hnumber n).trans (if_neg hk)
  | @fulfil k f result hf hresult =>
    have hk : k ≠ n := fun hk => hm (congrArg some hk)
    exact ⟨(o.find?_without k n).trans (if_neg hk), hland hk hf⟩
  | @abandon k f hf =>
    have hk : k ≠ n := fun hk => hm (congrArg some hk)
    exact ⟨(o.find?_without k n).trans (if_neg hk), hland hk hf⟩
  | nothing => exact ⟨rfl, rfl⟩

/-- A flight is where its stage says, and has brought what its stage says.  The stage is computed
from the moves that name the flight, so this ties the state of all flights together with the history
of each. -/
structure AtStage (o : Overlap) (n : Nat) (batch : Batch) (stage : Stage) : Prop where
  issued : n < o.nextFlight
  flight : o.flight? n = stage.flight? n batch
  landings : o.landingsOf n = stage.landings n batch

theorem Effect.le_nextFlight {o o' : Overlap} {m : Move} (h : o.Effect m o') :
    o.nextFlight ≤ o'.nextFlight := by
  cases h with
  | take h => exact Nat.le_succ _
  | _ => exact Nat.le_refl _

/-- A flight that is under way and lands has brought its answers and is gone.  It is the same
whether it brings records, a failure or a cancellation. -/
theorem atStage_land {o : Overlap} {n : Nat} {f : Flight} {stage : Stage}
    (hissued : n < o.nextFlight) (hf : o.flight? n = some f) (hnone : o.landingsOf n = [])
    {answers : List (Ticket × LoadResult)} (hgone : stage.flight? n f.batch = none)
    (hanswers : stage.landings n f.batch = Flight.land ⟨n, f.batch, none⟩ answers) :
    ({ o with
      flights := o.without n
      landings := o.landings ++ f.land answers } : Overlap).AtStage n f.batch stage := by
  have hnumber := (mem_of_flight? hf).2
  refine ⟨hissued, ?_, ?_⟩
  · rw [hgone]
    exact (o.find?_without n n).trans (if_pos rfl)
  · show (o.landings ++ f.land answers).filter _ = _
    rw [landingsOf] at hnone
    rw [List.filter_append, hnone, filter_land, if_pos hnumber, hanswers, List.nil_append,
      Flight.land, hnumber]
    rfl

theorem move_of_flight?_eq_none {o : Overlap} {n : Nat} {m : Move} (h : o.flight? n = none)
    (hm : m.flight? = some n) : o.move m = o := by
  rcases Move.eq_of_flight? hm with ⟨result, rfl⟩ | rfl | rfl <;> simp only [move, h]

/-- What becomes of a flight that asks the store: it is answered, it goes on, or it is given
up. -/
theorem atStage_move_of_asking {o : Overlap} {n : Nat} {batch : Batch}
    (h : o.AtStage n batch .asking) {m : Move} (hm : m.flight? = some n) :
    (o.move m).AtStage n batch (Stage.asking.next n m) := by
  obtain ⟨hissued, hflight, hlandings⟩ := h
  have hf : o.flight? n = some ⟨n, batch, none⟩ := hflight
  rcases Move.eq_of_flight? hm with ⟨result, rfl⟩ | rfl | rfl
  · have hfound := o.find?_replace ⟨n, batch, some result⟩ rfl n
    rw [if_pos rfl] at hfound
    simp only [move, hf, Stage.next, if_true]
    exact ⟨hissued, hfound, hlandings⟩
  · simp only [move, hf, Stage.next]
    exact ⟨hissued, hflight, hlandings⟩
  · simp only [move, hf, Stage.next, if_true]
    exact atStage_land hissued hf hlandings rfl rfl

/-- What becomes of a flight that the store has answered: it goes on, it lands, or it is
given up. -/
theorem atStage_move_of_fetched {o : Overlap} {n : Nat} {batch : Batch}
    {answer : Except StoreError (List PinnedDesign)} (h : o.AtStage n batch (.fetched answer))
    {m : Move} (hm : m.flight? = some n) :
    (o.move m).AtStage n batch ((Stage.fetched answer).next n m) := by
  obtain ⟨hissued, hflight, hlandings⟩ := h
  have hf : o.flight? n = some ⟨n, batch, some answer⟩ := hflight
  rcases Move.eq_of_flight? hm with ⟨result, rfl⟩ | rfl | rfl
  · simp only [move, hf, Stage.next]
    exact ⟨hissued, hflight, hlandings⟩
  · simp only [move, hf, Stage.next, if_true]
    exact atStage_land hissued hf hlandings rfl rfl
  · simp only [move, hf, Stage.next, if_true]
    exact atStage_land hissued hf hlandings rfl rfl

/-- A move that names a flight takes it to its next stage. -/
theorem atStage_move_of_eq {o : Overlap} {n : Nat} {batch : Batch} {stage : Stage}
    (h : o.AtStage n batch stage) {m : Move} (hm : m.flight? = some n) :
    (o.move m).AtStage n batch (stage.next n m) := by
  cases hlanded : stage.flight? n batch with
  | none =>
    rw [move_of_flight?_eq_none (h.flight.trans hlanded) hm, Stage.next_of_landed hlanded]
    exact h
  | some f =>
    cases stage with
    | asking => exact atStage_move_of_asking h hm
    | fetched answer => exact atStage_move_of_fetched h hm
    | fulfilled answer => cases hlanded
    | abandoned answer => cases hlanded

/-- A move takes a flight to its next stage. -/
theorem atStage_move {o : Overlap} {n : Nat} {batch : Batch} {stage : Stage}
    (h : o.AtStage n batch stage) (m : Move) : (o.move m).AtStage n batch (stage.next n m) := by
  by_cases hm : m.flight? = some n
  · exact atStage_move_of_eq h hm
  · obtain ⟨hflight, hlandings⟩ := (o.effect_move m).frame h.issued hm
    rw [stage.next_of_ne hm]
    exact ⟨Nat.lt_of_lt_of_le h.issued (o.effect_move m).le_nextFlight,
      hflight.trans h.flight, hlandings.trans h.landings⟩

/-! ### Flights in the course of moves -/

/-- A batch that is not empty was taken in the course of moves, as the flight of a number, and some
moves have come later.  An empty batch never takes off, so it costs no query. -/
def TookOff (moves : List Move) (n : Nat) (batch : Batch) (later : List Move) : Prop :=
  ∃ first, moves = first ++ .take :: later ∧ (after first).nextFlight = n
    ∧ (after first).loader.pending = batch ∧ batch.isEmpty = false

/-- What took off was under way one move earlier, or takes off just now. -/
theorem tookOff_append_iff {moves : List Move} {m : Move} {n : Nat} {batch : Batch}
    {later : List Move} :
    TookOff (moves ++ [m]) n batch later ↔
      (∃ earlier, later = earlier ++ [m] ∧ TookOff moves n batch earlier)
        ∨ later = [] ∧ m = .take ∧ (after moves).nextFlight = n
          ∧ (after moves).loader.pending = batch ∧ batch.isEmpty = false := by
  constructor
  · rintro ⟨first, hmoves, hstart⟩
    rcases snoc_eq_append_cons_iff.1 hmoves with ⟨rfl, rfl, rfl⟩ | ⟨earlier, rfl, rfl⟩
    · exact .inr ⟨rfl, rfl, hstart⟩
    · exact .inl ⟨earlier, rfl, first, rfl, hstart⟩
  · rintro (⟨earlier, rfl, first, rfl, hstart⟩ | ⟨rfl, rfl, hstart⟩)
    · exact ⟨first, by simp, hstart⟩
    · exact ⟨moves, rfl, hstart⟩

/-- A flight that takes off asks the store, and has brought nothing. -/
theorem atStage_take {o : Overlap} (ho : o.Numbered) (h : o.loader.pending.isEmpty = false) :
    (o.move .take).AtStage o.nextFlight o.loader.pending .asking := by
  rw [move_take_of_not_isEmpty h]
  refine ⟨Nat.lt_succ_self _, ?_, ?_⟩
  · have hnew : o.flights.find? (fun f => f.number == o.nextFlight) = none :=
      List.find?_eq_none.2 fun f hf => by simp [Nat.ne_of_lt (ho.flight f hf)]
    show (o.flights ++ [(⟨o.nextFlight, o.loader.pending, none⟩ : Flight)]).find? _ = _
    simp [List.find?_append, hnew, Stage.flight?]
  · refine List.filter_eq_nil_iff.2 fun l hl => ?_
    rw [beq_iff_eq]
    exact Nat.ne_of_lt (ho.landing l hl)

/-- **Every flight is where the moves have brought it that came after its batch was taken.** The
induction is on the moves from their end: the last one comes later than the batch was taken, or it
is the one that took it. -/
theorem atStage_after {moves : List Move} {n : Nat} {batch : Batch} {later : List Move}
    (h : TookOff moves n batch later) : (after moves).AtStage n batch (Stage.after n later) := by
  induction moves using List.reverseRecOn generalizing later with
  | nil =>
    obtain ⟨first, hmoves, -⟩ := h
    exact absurd hmoves (by simp)
  | append_singleton moves m ih =>
    rw [after_append]
    rcases tookOff_append_iff.1 h with ⟨earlier, rfl, hearlier⟩ | ⟨rfl, rfl, rfl, rfl, hbatch⟩
    · rw [Stage.after, List.foldl_append]
      exact atStage_move (ih hearlier) m
    · exact atStage_take (numbered_after moves) hbatch

/-- Every number that was given out is the one of a batch that was taken.  No flight is there that
did not begin with a batch. -/
theorem exists_tookOff {moves : List Move} {n : Nat} (h : n < (after moves).nextFlight) :
    ∃ batch later, TookOff moves n batch later := by
  induction moves using List.reverseRecOn with
  | nil => cases h
  | append_singleton moves m ih =>
    have hearlier : n < (after moves).nextFlight →
        ∃ batch later, TookOff (moves ++ [m]) n batch later := by
      intro hn
      obtain ⟨batch, later, htook⟩ := ih hn
      exact ⟨batch, later ++ [m], tookOff_append_iff.2 (.inl ⟨later, rfl, htook⟩)⟩
    rw [after_append] at h
    generalize hmove : (after moves).move m = o' at h
    have heffect := (after moves).effect_move m
    rw [hmove] at heffect
    cases heffect with
    | take hbatch =>
      rcases Nat.lt_succ_iff_lt_or_eq.1 h with h | rfl
      · exact hearlier h
      · exact ⟨_, [], tookOff_append_iff.2 (.inr ⟨rfl, rfl, rfl, rfl, hbatch⟩)⟩
    | _ => exact hearlier h

/-! ### Queries -/

/-- A move is the first answer of the store to a flight that is under way. -/
def Fetches (o : Overlap) (m : Move) (n : Nat) : Prop :=
  (∃ result, m = .fetch n result) ∧ ∃ f, o.flight? n = some f ∧ f.fetched = none

theorem queries_move_of_fetches {o : Overlap} {m : Move} {n : Nat} (h : o.Fetches m n) :
    (o.move m).queries = o.queries + 1 := by
  obtain ⟨⟨result, rfl⟩, f, hf, hnew⟩ := h
  simp [move, hf, hnew]

/-- No other move counts as a query. -/
theorem queries_move_of_not_fetches {o : Overlap} {m : Move} (h : ∀ n, ¬o.Fetches m n) :
    (o.move m).queries = o.queries := by
  cases m with
  | load pin => rfl
  | fetch n result =>
    simp only [move]
    split
    · rfl
    · rename_i f hf
      split
      · rfl
      · rename_i hnew
        exact absurd ⟨⟨result, rfl⟩, f, hf, by simpa using hnew⟩ (h n)
  | _ =>
    simp only [move]
    (repeat' split) <;> rfl

/-- The store has answered a flight in the course of moves. -/
def WasFetched (moves : List Move) (n : Nat) : Prop :=
  ∃ batch later, TookOff moves n batch later ∧ (Stage.after n later).wasFetched = true

/-- A flight asks the store until its first answer.  So no flight is counted as two queries. -/
theorem asking_of_fetches {moves : List Move} {m : Move} {n : Nat} {batch : Batch}
    {later : List Move} (htook : TookOff moves n batch later) (h : (after moves).Fetches m n) :
    Stage.after n later = .asking := by
  obtain ⟨-, f, hf, hnew⟩ := h
  have hstage := (atStage_after htook).flight
  rw [hf] at hstage
  cases hcourse : Stage.after n later with
  | asking => rfl
  | fetched result =>
    rw [hcourse] at hstage
    cases hstage
    cases hnew
  | fulfilled result =>
    rw [hcourse] at hstage
    cases hstage
  | abandoned result =>
    rw [hcourse] at hstage
    cases hstage

/-- What the store has answered, it had answered one move earlier, or answers just now. -/
theorem wasFetched_append_iff {moves : List Move} {m : Move} {n : Nat} :
    WasFetched (moves ++ [m]) n ↔ WasFetched moves n ∨ (after moves).Fetches m n := by
  have hnext : ∀ earlier, Stage.after n (earlier ++ [m]) = (Stage.after n earlier).next n m := by
    intro earlier
    rw [Stage.after, List.foldl_append]
    rfl
  constructor
  · rintro ⟨batch, later, htook, hfetched⟩
    rcases tookOff_append_iff.1 htook with ⟨earlier, rfl, hearlier⟩ | ⟨rfl, -⟩
    · rw [hnext, Stage.wasFetched_next_iff] at hfetched
      rcases hfetched with hfetched | ⟨hasking, hm⟩
      · exact .inl ⟨batch, earlier, hearlier, hfetched⟩
      · have hflight := (atStage_after hearlier).flight
        rw [hasking] at hflight
        exact .inr ⟨hm, _, hflight, rfl⟩
    · cases hfetched
  · rintro (⟨batch, later, htook, hfetched⟩ | hfetches)
    · refine ⟨batch, later ++ [m], tookOff_append_iff.2 (.inl ⟨later, rfl, htook⟩), ?_⟩
      rw [hnext, Stage.wasFetched_next_iff]
      exact .inl hfetched
    · obtain ⟨hm, f, hf, hnew⟩ := hfetches
      obtain ⟨hmem, rfl⟩ := mem_of_flight? hf
      obtain ⟨batch, later, htook⟩ := exists_tookOff ((numbered_after moves).flight f hmem)
      refine ⟨batch, later ++ [m], tookOff_append_iff.2 (.inl ⟨later, rfl, htook⟩), ?_⟩
      rw [hnext, Stage.wasFetched_next_iff]
      exact .inr ⟨asking_of_fetches htook ⟨hm, f, hf, hnew⟩, hm⟩

/-- The flights that the store has answered are as many as the queries.  Each is answered once: an
answer to a flight that has one already is not taken. -/
theorem exists_fetched (moves : List Move) :
    ∃ fetched : List Nat, fetched.Nodup ∧ fetched.length = (after moves).queries
      ∧ ∀ n, n ∈ fetched ↔ WasFetched moves n := by
  induction moves using List.reverseRecOn with
  | nil =>
    refine ⟨[], List.nodup_nil, rfl, fun n => iff_of_false List.not_mem_nil ?_⟩
    rintro ⟨batch, later, ⟨first, hmoves, -⟩, -⟩
    exact absurd hmoves (by simp)
  | append_singleton moves m ih =>
    obtain ⟨fetched, hnodup, hlength, hmem⟩ := ih
    simp only [wasFetched_append_iff]
    rw [after_append]
    -- the list gets longer with the flight whose first answer the move brings
    by_cases hfetches : ∃ n, (after moves).Fetches m n
    · obtain ⟨n, hn⟩ := hfetches
      have honly : ∀ k, (after moves).Fetches m k ↔ k = n := by
        intro k
        constructor
        · rintro ⟨⟨result, hk⟩, -⟩
          obtain ⟨⟨result', hn⟩, -⟩ := hn
          cases hk.symm.trans hn
          rfl
        · rintro rfl
          exact hn
      have hnew : n ∉ fetched := by
        rw [hmem]
        rintro ⟨batch, later, htook, hfetched⟩
        rw [asking_of_fetches htook hn] at hfetched
        cases hfetched
      refine ⟨n :: fetched, List.nodup_cons.2 ⟨hnew, hnodup⟩, ?_, fun k => ?_⟩
      · rw [List.length_cons, hlength, queries_move_of_fetches hn]
      · rw [List.mem_cons, hmem, honly, or_comm]
    · have hnone : ∀ n, ¬(after moves).Fetches m n := fun n hn => hfetches ⟨n, hn⟩
      refine ⟨fetched, hnodup, ?_, fun k => ?_⟩
      · rw [hlength, queries_move_of_not_fetches hnone]
      · rw [hmem, or_iff_left (hnone k)]

end Overlap

end DesignHistory
