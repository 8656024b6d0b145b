import DesignHistory.Store

/-!
# Inquiries

An operation of this library costs at most one query.  `Inquiry` says so in its
form: either the result is settled without the store, or it is what one question
to the tables gives.

## Main definitions

* `Inquiry`: settled, or asking one question.
* `Inquiry.run`: the result and the store afterwards.
* `Inquiry.cost`: the number of queries, 0 or 1.
-/

namespace DesignHistory

/-- **An operation that asks at most one question.** That no operation asks twice is thus part of
its type, and whether it asks at all can be read off the constructor.  The question is a function of
the tables and of nothing else in the store, so that an answer depends on records alone. -/
inductive Inquiry (α : Type) where
  /-- The result is known without the store. -/
  | settled (result : Except ResolveError α)
  /-- The result is the answer to one question. -/
  | asks (read : Tables → α)

namespace Inquiry

variable {α β : Type}

/-- The inquiry whose result is a function of another one's. -/
def map (f : α → β) : Inquiry α → Inquiry β
  | settled result => settled (result.map f)
  | asks read => asks fun t => f (read t)

/-- The number of queries an inquiry makes.  It does not depend on the store that is asked. -/
def cost : Inquiry α → Nat
  | settled _ => 0
  | asks _ => 1

/-- The result of an inquiry, and the store after it.  An armed failure takes the place of the
answer and is spent on it, but it is left alone by an inquiry that does not ask. -/
def run (q : Inquiry α) (s : Store) : Except ResolveError α × Store :=
  match q with
  | settled result => (result, s)
  | asks read => ((s.query read).1.mapError .store, (s.query read).2)

theorem map_map {γ : Type} (f : α → β) (g : β → γ) (q : Inquiry α) :
    (q.map f).map g = q.map fun a => g (f a) := by
  cases q with
  | settled result => cases result <;> rfl
  | asks read => rfl

@[simp]
theorem cost_map (f : α → β) (q : Inquiry α) : (q.map f).cost = q.cost := by
  cases q <;> rfl

/-- A change of the result changes the result of a run. -/
theorem result_run_map (f : α → β) (q : Inquiry α) (s : Store) :
    ((q.map f).run s).1 = (q.run s).1.map f := by
  cases q with
  | settled result => rfl
  | asks read =>
    cases hs : s.armed with
    | none => simp only [map, run, Store.query, hs]; rfl
    | some failure => simp only [map, run, Store.query, hs]; rfl

@[simp]
theorem tables_run (q : Inquiry α) (s : Store) : (q.run s).2.tables = s.tables := by
  cases q <;> simp [run]

@[simp]
theorem lastId_run (q : Inquiry α) (s : Store) : (q.run s).2.lastId = s.lastId := by
  cases q <;> simp [run]

@[simp]
theorem queries_run (q : Inquiry α) (s : Store) :
    (q.run s).2.queries = s.queries + q.cost := by
  cases q <;> simp [run, cost]

end Inquiry

end DesignHistory
