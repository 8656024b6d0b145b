import DesignHistory.Failure
import DesignHistory.SortedMap

/-!
# Answers

What comes back from a step of a session or a call on a database, as one type for
all of them.

## Main definitions

* `Answer`: the result of a step that worked.
* `Outcome`: an answer, a refusal, or a failure.
-/

namespace DesignHistory

/-- **What a step gives when it works.** One type serves all steps and all calls on a database, so
that a run has one list of outcomes and the answers of both stores can be compared as they are.
What is looked for and not found is `none` or an empty list, and no failure. -/
inductive Answer where
  | nothing
  | flag (value : Bool)
  | number (value : Int)
  | issue (value : Option Issue)
  | design (value : Option Design)
  | designs (value : List Design)
  | version (value : Option Version)
  | versions (value : List Version)
  | actions (value : List Action)
  | event (value : Option Event)
  | events (value : SortedMap DesignId Event)
  | pinned (value : Option PinnedDesign)
  | pinnedList (value : List PinnedDesign)
  /-- One place for each of several texts asked about. -/
  | pinnedSlots (value : List (Option PinnedDesign))
  /-- How many different pins wait after a lookup was scheduled. -/
  | scheduled (pending : Nat)
  | loaderState (pending batches : Nat)
  /-- The answer to a lookup is still to come. -/
  | waiting
  /-- The answer to a lookup is there. -/
  | ready (value : Option PinnedDesign)
  /-- A reference index, and what it has for each reference asked about. -/
  | index (size : Nat) (isEmpty : Bool) (found : List (Option Design))

/-- **What becomes of a step.** A refusal is about the session alone: the step names a record, a
loader, a handle or a cache that is not there.  The two kinds of failures are those of the
operations themselves; a question and a batch have errors of different types. -/
inductive Outcome where
  | answer (a : Answer)
  /-- The step names something that is not there. -/
  | refused
  | failed (e : ResolveError)
  | loadFailed (e : LoadError)

namespace Outcome

/-- A result as an outcome, with what a failure becomes. -/
def ofExcept {ε : Type} (failure : ε → Outcome) : Except ε Answer → Outcome
  | .ok a => .answer a
  | .error e => failure e

@[simp]
theorem ofExcept_ok {ε : Type} (failure : ε → Outcome) (a : Answer) :
    ofExcept failure (.ok a) = .answer a := rfl

@[simp]
theorem ofExcept_error {ε : Type} (failure : ε → Outcome) (e : ε) :
    ofExcept failure (.error e) = failure e := rfl

/-- The result of a question as an outcome. -/
def ofResult : Except ResolveError Answer → Outcome := ofExcept .failed

/-- The result of a batch as an outcome. -/
def ofLoad : Except LoadError Answer → Outcome := ofExcept .loadFailed

end Outcome

end DesignHistory
