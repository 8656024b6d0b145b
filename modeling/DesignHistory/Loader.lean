import DesignHistory.Resolution

/-!
# Batched lookups

A loader collects lookups and answers all of them with one query when it is
dispatched.  Whoever asks gets a ticket; lookups of the same pin share one entry
of the batch, and every ticket of the entry gets the same answer.

A batch is plain data.  Taking it from the loader, fetching its records and
answering its tickets are separate functions, so that what happens between them
can be talked about.

## Main definitions

* `Batch`: the tickets that wait for each pin.
* `Batch.selection`, `Batch.answers`, `Batch.cancellations`: its one query and the
  answers to its tickets.
* `Loader`: the batch being collected, and the number of batches that went out.
* `Loader.load`, `Loader.take`: collecting and handing over.
* `Loader.dispatch`: one query for everything collected.
* `Handle`: what the asking side holds, an answer or a ticket.
-/

namespace DesignHistory

/-- Stands for one scheduled lookup. -/
abbrev Ticket := Nat

/-- The answer to a scheduled lookup. -/
abbrev LoadResult := Except LoadError (Option PinnedDesign)

/-- **The tickets that wait for each pin.** A pin that is asked for again gets another ticket, in
the line of the first one, and no second place in the query. -/
abbrev Batch := SortedMap Pin (List Ticket)

namespace Batch

/-- All tickets of a batch. -/
def tickets (b : Batch) : List Ticket := b.values.flatten

/-- A batch with one more ticket waiting for a pin. -/
def enqueue (b : Batch) (pin : Pin) (ticket : Ticket) : Batch :=
  b.insert pin ((b.get? pin).getD [] ++ [ticket])

/-- The one query that answers a batch.  Its pins are the keys of the batch, each once, however many
tickets wait. -/
def selection (b : Batch) : Selection := Selection.all.forPins b.keys

/-- What each ticket gets when the query of the batch gave a result: the record
of its pin if there is one, or the failure that all of them share. -/
def answers (b : Batch) (fetched : Except StoreError (List PinnedDesign)) :
    List (Ticket × LoadResult) :=
  b.entries.flatMap fun (pin, tickets) =>
    let result := (fetched.map fun records => PinnedDesign.lookup pin records).mapError .fetch
    tickets.map fun ticket => (ticket, result)

/-- What each ticket gets when the batch goes away. -/
def cancellations (b : Batch) : List (Ticket × LoadResult) :=
  b.tickets.map fun ticket => (ticket, .error .cancelled)

end Batch

/-- **Collects lookups for one unit of work.** `pending` is what the next dispatch takes, and
`batches` counts the dispatches that found something to take. -/
structure Loader where
  pending : Batch := .empty
  batches : Nat := 0

namespace Loader

/-- Schedules a lookup under a ticket. -/
def load (l : Loader) (pin : Pin) (ticket : Ticket) : Loader :=
  { l with pending := l.pending.enqueue pin ticket }

/-- The number of different pins scheduled. -/
def pendingCount (l : Loader) : Nat := l.pending.size

/-- Hands over the batch collected so far; one that is not empty counts. -/
def take (l : Loader) : Batch × Loader :=
  (l.pending,
    { pending := .empty
      batches := if l.pending.isEmpty then l.batches else l.batches + 1 })

/-- Schedules the texts that name a pin, with tickets counted up from the first
one given.  The result has the ticket of each text, none for a malformed one. -/
def loadAll (l : Loader) (ticket : Ticket) :
    List String → List (Option Ticket) × Loader × Ticket
  | [] => ([], l, ticket)
  | identity :: rest =>
    match Pin.decode? identity with
    | some pin =>
      let (slots, l, next) := (l.load pin ticket).loadAll (ticket + 1) rest
      (some ticket :: slots, l, next)
    | none =>
      let (slots, l, next) := l.loadAll ticket rest
      (none :: slots, l, next)

/-- What a dispatch leaves behind: its own result, what each waiting ticket gets, and the loader and
the store after it. -/
structure Dispatched where
  /-- The number of different pins, or the failure that all tickets share. -/
  result : Except LoadError Nat
  answers : List (Ticket × LoadResult)
  loader : Loader
  store : Store

/-- **One query for everything collected so far**; none if nothing was.  The batch is taken before
the store is asked, so that a failure is for its tickets alone and the next batch starts empty. -/
def dispatch (l : Loader) (s : Store) : Dispatched :=
  let (batch, loader) := l.take
  if batch.isEmpty then
    { result := .ok 0, answers := [], loader, store := s }
  else
    let (fetched, store) := s.query fun t => t.select batch.selection
    { result := (fetched.map fun _ => batch.size).mapError .fetch
      answers := batch.answers fetched
      loader
      store }

/-- The store after a dispatch is as it was, or as one query leaves it. -/
theorem store_dispatch (l : Loader) (s : Store) :
    (l.dispatch s).store = s
      ∨ (l.dispatch s).store = (s.query fun t => t.select l.pending.selection).2 := by
  unfold dispatch
  simp only [take]
  split
  · exact .inl rfl
  · exact .inr rfl

end Loader

/-- The answer to a ticket among several. -/
def answerTo (ticket : Ticket) (answers : List (Ticket × LoadResult)) : Option LoadResult :=
  (answers.find? fun a => a.1 == ticket).map Prod.snd

/-- The results in the order in which they were asked for: nothing where there
was no ticket, and a ticket that got no answer is cancelled. -/
def collect (slots : List (Option Ticket)) (answers : List (Ticket × LoadResult)) :
    Except LoadError (List (Option PinnedDesign)) :=
  slots.mapM fun
    | none => .ok none
    | some ticket => (answerTo ticket answers).getD (.error .cancelled)

/-- What the asking side of a lookup holds: a ticket until its batch ends, and the result from then
on.  A text that is no pin has its result at once, and never a ticket. -/
inductive Handle where
  | answered (result : LoadResult)
  | waiting (ticket : Ticket)

/-- A handle once answers have come in.  An answer that is there is never replaced, and answers for
other tickets are passed over. -/
def Handle.receive (answers : List (Ticket × LoadResult)) : Handle → Handle
  | .answered result => .answered result
  | .waiting ticket =>
    match answerTo ticket answers with
    | some result => .answered result
    | none => .waiting ticket

end DesignHistory
