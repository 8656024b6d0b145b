import DesignHistory.Loader

/-!
# Overlapping dispatches

A dispatch waits for the store between taking its batch and answering the tickets.
Meanwhile more lookups may be scheduled on the loader and more dispatches begun,
and a dispatch may be given up.  This module describes a loader with any number
of dispatches under way, as moves on one state.

## Main definitions

* `Flight`: a batch that was taken and is not answered yet.
* `Overlap`: a loader, its flights, and what was answered so far.
* `Overlap.Move`, `Overlap.move`: what can happen, one move at a time.
* `Overlap.run`: moves in order.

A move that names a flight that is not there, or that comes too early for it,
changes nothing, so every list of moves is a possible course of events.
-/

namespace DesignHistory

/-- A batch on its way, from the dispatch that takes it to the handing out of the results.
`fetched` is there once the store has answered. -/
structure Flight where
  number : Nat
  batch : Batch
  /-- What the store answered, once it has. -/
  fetched : Option (Except StoreError (List PinnedDesign)) := none

/-- A ticket with its answer, and the flight that brought it.  The number of the flight says from
which dispatch the answer came. -/
structure Landing where
  flight : Nat
  ticket : Ticket
  result : LoadResult

/-- The answers that a flight brings to its tickets. -/
def Flight.land (f : Flight) (answers : List (Ticket × LoadResult)) : List Landing :=
  answers.map fun (ticket, result) => ⟨f.number, ticket, result⟩

/-- **A loader with several dispatches under way.** A dispatch waits for the store between taking
its batch and handing out the results, and meanwhile lookups are scheduled and other dispatches go
on.  Each of these points is a move of its own, so that lists of moves are the possible
interleavings. -/
structure Overlap where
  loader : Loader := {}
  flights : List Flight := []
  landings : List Landing := []
  nextTicket : Ticket := 0
  nextFlight : Nat := 0
  queries : Nat := 0

namespace Overlap

/-- What can happen to a loader with dispatches under way.  The moves may come in any order: one
that is about a flight that is not there, or not yet answered, changes nothing. -/
inductive Move where
  /-- A lookup is scheduled. -/
  | load (pin : Pin)
  /-- A dispatch takes the batch collected so far. -/
  | take
  /-- The store answers a flight. -/
  | fetch (flight : Nat) (result : Except StoreError (List PinnedDesign))
  /-- The tickets of a flight get their answers. -/
  | fulfil (flight : Nat)
  /-- The dispatch of a flight is given up. -/
  | abandon (flight : Nat)

/-- The flight of a number. -/
def flight? (o : Overlap) (number : Nat) : Option Flight :=
  o.flights.find? fun f => f.number == number

/-- The flights with one of them taken out. -/
def without (o : Overlap) (number : Nat) : List Flight :=
  o.flights.filter fun f => f.number != number

/-- One move.  A move that names no flight, or comes too early or too late for it, leaves everything
as it is. -/
def move (o : Overlap) : Move → Overlap
  | .load pin =>
    { o with loader := o.loader.load pin o.nextTicket, nextTicket := o.nextTicket + 1 }
  | .take =>
    let (batch, loader) := o.loader.take
    if batch.isEmpty then { o with loader }
    else
      { o with
        loader
        flights := o.flights ++ [{ number := o.nextFlight, batch }]
        nextFlight := o.nextFlight + 1 }
  | .fetch number result =>
    match o.flight? number with
    | none => o
    | some f =>
      if f.fetched.isSome then o
      else
        { o with
          flights := o.without number ++ [{ f with fetched := some result }]
          queries := o.queries + 1 }
  | .fulfil number =>
    match o.flight? number with
    | none => o
    | some f =>
      match f.fetched with
      | none => o
      | some result =>
        { o with
          flights := o.without number
          landings := o.landings ++ f.land (f.batch.answers result) }
  | .abandon number =>
    match o.flight? number with
    | none => o
    | some f =>
      { o with
        flights := o.without number
        landings := o.landings ++ f.land f.batch.cancellations }

/-- Moves in order. -/
def run (o : Overlap) (moves : List Move) : Overlap := moves.foldl move o

end Overlap

end DesignHistory
