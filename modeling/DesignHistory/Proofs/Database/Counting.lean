import DesignHistory.Database.Client
import DesignHistory.Proofs.Session.Queries

/-!
# Which statements are counted

A database is sent one statement for every question that costs a query in memory, and none for
the others.  The two do not count alike, though: in memory a question is counted before it is
known whether it can be answered, and a statement that was sent is counted only after the
database has carried it out.  A statement that is refused is therefore sent and not counted,
and so is a count whose reply does not start with a number; rows that cannot be read as
records come too late to make a difference.

## Main definitions

* `Question.plan?`: the reads of the store as calls on a database.
* `Question.isCarriedOut`: a reply with which the statement of a question is done.
* `Question.Sends`: what a read of the store becomes as a call.

## Main statements

* `Database.Request.counted_perform`: what one request counts.
* `Question.sends_of_plan?`: a read of the store is settled, or it is one request.
* `Question.counts_carried_out`: what is sent, what is counted, and what is counted in memory.
* `Question.refused_not_counted`: the two ways in which a statement goes uncounted.
-/

namespace DesignHistory

open Database Sql

namespace Database

/-! ### Requests -/

/-- The connection was refused, and nothing could be sent. -/
def Reply.isRejected : Reply → Bool
  | .rejected _ => true
  | _ => false

/-- The first row starts with a 64-bit integer. -/
def startsWithNumber : List (List Cell) → Bool
  | (some (.int8 _) :: _) :: _ => true
  | _ => false

/-- A count can be read exactly from rows that start with a number. -/
theorem isOk_readCount (columns : List String) (rows : List (List Cell)) :
    (readCount columns rows).isOk = startsWithNumber rows := by
  cases rows with
  | nil => rfl
  | cons cells rest =>
    cases cells with
    | nil => rfl
    | cons cell cells =>
      rcases cell with _ | n | n | n | s | t <;> rfl

variable {α β : Type}

theorem isOk_map {ε : Type} (f : α → β) (x : Except ε α) : (x.map f).isOk = x.isOk := by
  cases x <;> rfl

/-- With this reply the statement of a request is done.  A request for a number is done only if
there is one, because fetching it belongs to the statement. -/
def Request.isCarriedOut (r : Request α) : Reply → Bool
  | .rows columns rows => !r.scalar || (r.read columns rows).isOk
  | .refused _ | .rejected _ => false

/-- A request is sent unless the connection was refused. -/
theorem Request.length_sent_perform (r : Request α) (reply : Reply) :
    (r.perform reply).sent.length = if reply.isRejected then 0 else 1 := by
  cases reply with
  | rows columns rows =>
    show (r.perform (.rows columns rows)).sent.length = 1
    cases hread : r.read columns rows <;> simp [perform, hread]
  | refused message => rfl
  | rejected message => rfl

/-- A request is counted if its statement is done. -/
theorem Request.counted_perform (r : Request α) (reply : Reply) :
    (r.perform reply).counted = if r.isCarriedOut reply then 1 else 0 := by
  cases reply with
  | rows columns rows =>
    cases hread : r.read columns rows with
    | ok a => simp [perform, isCarriedOut, hread, Except.isOk, Except.toBool]
    | error e =>
      cases hscalar : r.scalar <;>
        simp [perform, isCarriedOut, hread, hscalar, Except.isOk, Except.toBool]
  | refused message => rfl
  | rejected message => rfl

/-- A request that is not counted fails, and the failure is that of a statement. -/
theorem Request.failed_of_not_counted {r : Request α} {reply : Reply}
    (h : (r.perform reply).counted = 0) :
    ∃ purpose cause, (r.perform reply).result = .error (.failed purpose cause) := by
  cases reply with
  | rows columns rows =>
    cases hread : r.read columns rows with
    | ok a => simp [perform, hread] at h
    | error e =>
      cases hs : r.scalar with
      | false => simp [perform, hread, hs] at h
      | true => exact ⟨r.purpose, none, by simp [perform, hread, hs]⟩
  | refused message => exact ⟨_, _, rfl⟩
  | rejected message => exact ⟨_, _, rfl⟩

end Database

namespace Question

/-! ### Reads of the store -/

/-- How a read of the store is put to a database; what is resolved from several texts or through a
lookup is no read by itself.  It goes through the calls, so that what is counted is what the program
sends. -/
def plan? : Question Design Version → Option (Plan Answer)
  | .findIssue id => some (Call.findIssue id).plan
  | .findDesign issueId id => some (Call.findDesign issueId id).plan
  | .findDesignByFilename issueId filename => some (Call.findDesignByFilename issueId filename).plan
  | .designsOfIssue issueId => some (Call.designsOfIssue issueId).plan
  | .designsByReference references => some (Call.designsByReference references).plan
  | .findVersion id => some (Call.findVersion id).plan
  | .versionsOfIssue issueId => some (Call.versionsOfIssue issueId).plan
  | .versionBySha issueId sha => some (Call.versionBySha issueId sha).plan
  | .actionsOfVersion versionId => some (Call.actionsOfVersion versionId).plan
  | .visibleDesigns v filter => some (Call.visibleDesigns v filter).plan
  | .changedDesigns v => some (Call.changedDesigns v).plan
  | .countAlways chain =>
    some (.request ((countPinned (.ofChain chain)).map fun n => .number n.toInt))
  | .loadAlways chain => some (.request ((loadPinned (.ofChain chain)).map .pinnedList))
  | .count chain => some (Call.count (.ofChain chain)).plan
  | .isEmpty chain => some (Call.isEmpty (.ofChain chain)).plan
  | .records chain => some (Call.records (.ofChain chain)).plan
  | _ => none

/-- The statement of the question has a number for its result. -/
def asksNumber : Question Design Version → Bool
  | .countAlways _ | .count _ | .isEmpty _ => true
  | _ => false

/-- With this reply the statement of a question is done: there are rows, whatever they are, and
where a number was asked for they start with one.  It is said without the request, from the question
and the reply alone. -/
def isCarriedOut (question : Question Design Version) : Reply → Bool
  | .rows _ rows => !question.asksNumber || startsWithNumber rows
  | .refused _ | .rejected _ => false

/-- How a read of the store becomes a call: it is settled and costs nothing, or it is one request
that costs a query and is done when the question is.  The costs are those that are counted in
memory. -/
inductive Sends (question : Question Design Version) : Plan Answer → Prop
  | settled (a : Answer) (hcost : question.inquiry.cost = 0) : Sends question (.settled a)
  | request (r : Request Answer) (hcost : question.inquiry.cost = 1)
      (hdone : ∀ reply, r.isCarriedOut reply = question.isCarriedOut reply) :
      Sends question (.request r)

/-- A call that is settled exactly where a question costs nothing. -/
theorem Sends.of_cost_eq_zero_iff {question : Question Design Version} {free : Bool} {a : Answer}
    {r : Request Answer} (hcost : question.inquiry.cost = 0 ↔ free = true)
    (hdone : ∀ reply, r.isCarriedOut reply = question.isCarriedOut reply) :
    question.Sends (if free then .settled a else .request r) := by
  cases free with
  | true => exact .settled a (hcost.2 rfl)
  | false =>
    have hpos : question.inquiry.cost ≠ 0 := fun hzero => Bool.false_ne_true (hcost.1 hzero)
    have hle := question.inquiry.cost_le_one
    exact .request r (by omega) hdone

/-- A question for a number is done when the count of a selection is. -/
theorem isCarriedOut_countPinned {question : Question Design Version}
    (h : question.asksNumber = true) (s : Selection) (f : Int64 → Answer) (reply : Reply) :
    ((countPinned s).map f).isCarriedOut reply = question.isCarriedOut reply := by
  cases reply with
  | rows columns rows =>
    show ((readCount columns rows).map f).isOk = (!question.asksNumber || startsWithNumber rows)
    rw [h, isOk_map, isOk_readCount]
    rfl
  | refused message => rfl
  | rejected message => rfl

/-- A question for records is done when there are rows. -/
theorem isCarriedOut_of_not_scalar {question : Question Design Version}
    (h : question.asksNumber = false) {r : Request Answer} (hr : r.scalar = false) (reply : Reply) :
    r.isCarriedOut reply = question.isCarriedOut reply := by
  cases reply with
  | rows columns rows => simp [Request.isCarriedOut, isCarriedOut, h, hr]
  | refused message => rfl
  | rejected message => rfl

/-- Every read of the store becomes a call in one of these two ways.  This is the one place where
the questions are gone through; what is counted follows from the two cases. -/
theorem sends_of_plan? {question : Question Design Version} {plan : Plan Answer}
    (h : question.plan? = some plan) : question.Sends plan := by
  cases question with
  | designsByReference references =>
    cases h
    refine .of_cost_eq_zero_iff ?_ (isCarriedOut_of_not_scalar rfl rfl)
    rw [inquiry, Inquiry.cost_map, Resolution.cost_designsByReference_eq_zero_iff,
      List.isEmpty_iff]
  | countAlways chain =>
    cases h
    exact .request _ rfl (isCarriedOut_countPinned rfl _ _)
  | count chain =>
    cases h
    refine .of_cost_eq_zero_iff ?_ (isCarriedOut_countPinned rfl _ _)
    rw [inquiry, Inquiry.cost_map, Selection.cost_count_eq_zero_iff]
  | isEmpty chain =>
    cases h
    refine .of_cost_eq_zero_iff ?_ (isCarriedOut_countPinned rfl _ _)
    rw [inquiry, Inquiry.cost_map, Selection.isEmpty, Inquiry.cost_map,
      Selection.cost_count_eq_zero_iff]
  | records chain =>
    cases h
    refine .of_cost_eq_zero_iff ?_ (isCarriedOut_of_not_scalar rfl rfl)
    rw [inquiry, Inquiry.cost_map, Selection.cost_records_eq_zero_iff]
  | byIdentity | byIdentityInIssue | byIdentities | pair | eventAt | allForVersion
  | oneForVersion | designLookup | versionsUpTo => cases h
  | _ =>
    cases h
    exact .request _ rfl (isCarriedOut_of_not_scalar rfl rfl)

/-- **What a database is sent, and what of it is counted.**  For a read of the store, a database
that can be reached is sent one statement, or none where the question needs no query, and so
many queries are counted in memory, also when one fails.  The statement is counted exactly when
the reply carries it out: there have to be rows, and where a number was asked for they have to
start with one; whether they can be read as records does not matter.  A statement that goes
uncounted is reported as failed. -/
theorem counts_carried_out {question : Question Design Version} {plan : Plan Answer}
    (hplan : question.plan? = some plan) (reply : Reply) (store : Store) :
    question.inquiry.cost ≤ 1 ∧ (question.inquiry.cost = 0 ↔ question.Free)
      ∧ (question.inquiry.run store).2.queries = store.queries + question.inquiry.cost
      ∧ (plan.perform reply).sent.length = (if reply.isRejected then 0 else question.inquiry.cost)
      ∧ (plan.perform reply).counted
        = (if question.isCarriedOut reply then question.inquiry.cost else 0)
      ∧ ((plan.perform reply).counted < question.inquiry.cost →
        ∃ purpose cause, (plan.perform reply).result = .error (.failed purpose cause)) := by
  refine ⟨question.inquiry.cost_le_one, question.cost_eq_zero_iff,
    question.inquiry.queries_run store, ?_⟩
  cases sends_of_plan? hplan with
  | settled a hcost =>
    rw [hcost, ite_self, ite_self]
    exact ⟨rfl, rfl, fun hlt => absurd hlt (Nat.not_lt_zero _)⟩
  | request r hcost hdone =>
    rw [hcost, ← hdone reply]
    refine ⟨r.length_sent_perform reply, r.counted_perform reply, fun hlt => ?_⟩
    exact Request.failed_of_not_counted (Nat.lt_one_iff.1 hlt)

/-- A design that cannot be read from its row was asked for with a statement that is counted. -/
theorem counts_carried_out_of_unreadable :
    (Question.findDesign 1 2).plan? = some (Call.findDesign 1 2).plan
      ∧ ((Call.findDesign 1 2).plan.perform (.rows ["id"] [[none]])).counted = 1 := by
  have hplan : (Question.findDesign 1 2).plan? = some (Call.findDesign 1 2).plan := rfl
  obtain ⟨-, -, -, -, hcounted, -⟩ :=
    counts_carried_out hplan (.rows ["id"] [[none]]) .empty
  exact ⟨hplan, hcounted⟩

/-- A statement that the database refuses is sent and not counted, and so is a count without a
row, while in memory a look-up that fails is counted like any other. -/
theorem refused_not_counted :
    (Question.findIssue 1).plan? = some (Call.findIssue 1).plan
      ∧ ((Call.findIssue 1).plan.perform (.refused "boom")).sent = [Sql.findIssue 1]
      ∧ ((Call.findIssue 1).plan.perform (.refused "boom")).counted = 0
      ∧ ((Call.count .all).plan.perform (.rows ["count"] [])).sent.length = 1
      ∧ ((Call.count .all).plan.perform (.rows ["count"] [])).counted = 0
      ∧ ((Question.findIssue 1).inquiry.run (Store.empty.failNext "boom")).2.queries = 1 :=
  ⟨rfl, rfl, rfl, rfl, rfl, rfl⟩

end Question

end DesignHistory
