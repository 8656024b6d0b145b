import DesignHistory.Proofs.Selection.Chains
import DesignHistory.Proofs.Session.Batches
import DesignHistory.Proofs.Session.Caches

/-!
# The cost of a session

A step of a session makes one query or none, however many identities, references or waiting
lookups it is about.  Which of the two it is can be told from the steps so far: a query is
saved where the answer follows from the question, where nothing was collected, and where a
cache was asked before.

## Main definitions

* `Session.cost`: the number of queries of a step.
* `Question.Free`, `Session.Free`: the questions and the steps that need no query.

## Main statements

* `Session.queries_step`: a step adds its cost to the count of queries.
* `Question.cost_eq_zero_iff`: the questions that cost nothing.
* `Session.query_budget`: what every step of every session costs.
-/

namespace DesignHistory

/-! ### Inquiries -/

namespace Inquiry

@[simp]
theorem cost_settled {α : Type} (result : Except ResolveError α) :
    (settled result).cost = 0 := rfl

@[simp]
theorem cost_asks {α : Type} (read : Tables → α) : (asks read).cost = 1 := rfl

theorem cost_le_one {α : Type} (q : Inquiry α) : q.cost ≤ 1 := by
  cases q with
  | settled result => exact Nat.zero_le _
  | asks read => exact Nat.le_refl _

end Inquiry

theorem Selection.cost_records_eq_zero_iff {s : Selection} :
    s.records.cost = 0 ↔ s.matchesNothing = true := by
  unfold records
  split <;> simp_all

theorem Selection.cost_count_eq_zero_iff {s : Selection} :
    s.count.cost = 0 ↔ s.matchesNothing = true := by
  rw [count_eq_map_records, Inquiry.cost_map, cost_records_eq_zero_iff]

theorem Selection.matchesNothing_forPin (pin : Pin) :
    (Selection.all.forPins [pin]).matchesNothing = false := rfl

theorem Selection.matchesNothing_forIssue (s : Selection) (issueId : IssueId) :
    (s.forIssue issueId).matchesNothing = s.matchesNothing := rfl

theorem Selection.matchesNothing_forPins_iff {pins : List Pin} :
    (Selection.all.forPins pins).matchesNothing = true ↔ pins = [] := by
  simp [matchesNothing, forPins, all, distinct_eq_nil_iff]

theorem Resolution.cost_designsByReference_eq_zero_iff {references : List DesignReference} :
    (designsByReference references).cost = 0 ↔ references = [] := by
  unfold designsByReference
  split <;> simp_all

/-! ### Questions -/

namespace Question

/-- The questions that need no query: those that ask for nothing, and those that are answered by
what is asked.  Everything that is refused before the store is reached is among them. -/
def Free : Question Design Version → Prop
  | .byIdentity identity | .byIdentityInIssue _ identity => Pin.decode? identity = none
  | .byIdentities identities => ∀ identity ∈ identities, Pin.decode? identity = none
  | .pair _ _ => True
  | .eventAt d v => d.issueId ≠ v.issueId
  | .designLookup _ lookup => ∃ e, lookup.key = .error e
  | .oneForVersion v lookup =>
    (∃ e, lookup.key = .error e)
      ∨ ∃ identity, lookup.key = .ok (.identity identity)
        ∧ ∀ pin, Pin.decode? identity = some pin → pin.versionId ≠ v.id
  | .count chain | .isEmpty chain | .records chain =>
    Restriction.Requests chain
      ∧ ∀ pin, ∃ requested, .pins requested ∈ chain ∧ pin ∉ requested
  | .designsByReference references => references = []
  | _ => False

/-- The questions that cost nothing are those that need no query.  The left-hand side is computed,
the right-hand side is what can be read off the question. -/
theorem cost_eq_zero_iff (question : Question Design Version) :
    question.inquiry.cost = 0 ↔ question.Free := by
  cases question with
  | byIdentity identity =>
    rw [inquiry, Inquiry.cost_map, Resolution.byIdentity, Free]
    cases Pin.decode? identity with
    | none => simp
    | some pin => simp [Selection.cost_records_eq_zero_iff, Selection.matchesNothing_forPin]
  | byIdentityInIssue issueId identity =>
    rw [inquiry, Inquiry.cost_map, Resolution.byIdentityInIssue, Free]
    cases Pin.decode? identity with
    | none => simp
    | some pin =>
      simp [Selection.cost_records_eq_zero_iff, Selection.matchesNothing_forIssue,
        Selection.matchesNothing_forPin]
  | byIdentities identities =>
    rw [inquiry, Inquiry.cost_map, Resolution.byIdentities, Inquiry.cost_map,
      Selection.cost_records_eq_zero_iff, Selection.matchesNothing_forPins_iff, Free]
    simp [List.filterMap_eq_nil_iff]
  | pair d v => exact iff_of_true rfl trivial
  | eventAt d v =>
    rw [inquiry, Free]
    by_cases hissue : d.issueId = v.issueId
    · simp [PinnedDesign.ofPair, hissue, Resolution.eventAt]
    · simp [PinnedDesign.ofPair, hissue]
  | designLookup issueId lookup =>
    rw [inquiry, Inquiry.cost_map, Resolution.design, Free]
    rcases lookup.key with e | id | filename <;> simp
  | oneForVersion v lookup =>
    rw [inquiry, Inquiry.cost_map, Resolution.oneForVersion, Free]
    rcases lookup.key with e | identity | key
    · simp
    · cases hpin : Pin.decode? identity with
      | none => simp [hpin]
      | some pin =>
        by_cases hversion : pin.versionId = v.id <;>
          simp [Selection.cost_records_eq_zero_iff, hpin, hversion,
            Selection.matchesNothing_forIssue, Selection.matchesNothing_forPin]
    · simp [Resolution.allForVersion]
  | count chain =>
    rw [inquiry, Inquiry.cost_map, Selection.cost_count_eq_zero_iff, Free,
      Selection.matchesNothing_ofChain_iff]
  | isEmpty chain =>
    rw [inquiry, Inquiry.cost_map, Selection.isEmpty, Inquiry.cost_map,
      Selection.cost_count_eq_zero_iff, Free, Selection.matchesNothing_ofChain_iff]
  | records chain =>
    rw [inquiry, Inquiry.cost_map, Selection.cost_records_eq_zero_iff, Free,
      Selection.matchesNothing_ofChain_iff]
  | designsByReference references =>
    rw [inquiry, Inquiry.cost_map, Resolution.cost_designsByReference_eq_zero_iff, Free]
  | _ => exact iff_of_false Nat.one_ne_zero id

end Question

/-! ### Batches -/

/-- The number of queries that it takes to fetch a batch. -/
def Batch.cost (b : Batch) : Nat := if b.isEmpty then 0 else 1

/-- Only a batch in which nothing waits is fetched without a query. -/
theorem Batch.cost_eq_zero_iff {b : Batch} : b.cost = 0 ↔ b.isEmpty = true := by
  unfold cost
  split <;> simp_all

namespace Loader

/-- A dispatch makes a query if anything waits. -/
theorem queries_dispatch (l : Loader) (s : Store) :
    (l.dispatch s).store.queries = s.queries + l.pending.cost := by
  unfold dispatch Batch.cost
  simp only [take]
  split
  · rfl
  · exact s.queries_query _

/-- After several texts were scheduled, nothing waits if nothing did before and no text names
a pin. -/
theorem isEmpty_loadAll_iff {l : Loader} {next : Ticket} {identities : List String} :
    (l.loadAll next identities).2.1.pending.isEmpty = true
      ↔ l.pending.isEmpty = true ∧ ∀ identity ∈ identities, Pin.decode? identity = none := by
  induction identities generalizing l next with
  | nil => simp [loadAll]
  | cons identity rest ih =>
    rw [List.forall_mem_cons]
    unfold loadAll
    split
    · rename_i pin hpin
      have hload : (l.load pin next).pending.isEmpty = false :=
        SortedMap.isEmpty_eq_false (SortedMap.get?_insert_self _ _ _)
      rw [ih (l := l.load pin next), hload, hpin]
      simp
    · rename_i hpin
      rw [ih, hpin]
      simp

end Loader

/-! ### Steps -/

namespace Session

/-- The number of queries that a step makes.  A batch of any number of pins makes one, and so does a
look-up of events that were not looked up before. -/
def cost (s : Session) : Step → Nat
  | .ask question =>
    ((question.resolve? s.design? s.version?).map fun q => q.inquiry.cost).getD 0
  | .dispatch name => ((s.loaders.get? name).map fun l => l.pending.cost).getD 0
  | .resolveAll name identities =>
    ((s.loaders.get? name).map fun l =>
      (l.loadAll s.nextTicket identities).2.1.pending.cost).getD 0
  | .eventsFor name version | .eventFor name _ version =>
    match s.caches.get? name, s.version? version with
    | some cache, some v => if (cache.byVersion.get? v.id).isSome then 0 else 1
    | _, _ => 0
  | .resolveIndex _ references => (ReferenceIndex.resolve references).cost
  | _ => 0

/-- A step adds its cost to the count of queries.  The cost is found before the step is taken,
whether or not the step will succeed. -/
theorem queries_step (s : Session) (step : Step) :
    (s.step step).2.store.queries = s.store.queries + s.cost step := by
  cases step with
  | ask question =>
    cases h : question.resolve? s.design? s.version? <;> simp [step, cost, h]
  | dispatch name =>
    cases h : s.loaders.get? name with
    | none => simp [step, cost, h]
    | some l => simp [step, cost, h, dispatch, l.queries_dispatch]
  | resolveAll name identities =>
    cases h : s.loaders.get? name with
    | none => simp [step, cost, h]
    | some l => simp [step, cost, h, dispatch, Loader.queries_dispatch]
  | eventsFor name version =>
    rcases hc : s.caches.get? name with _ | cache
    · simp [step, cost, hc]
    rcases hv : s.version? version with _ | v
    · simp [step, cost, hc, hv]
    · simp [step, cost, hc, hv, eventsFor, cache.queries_eventsFor]
  | eventFor name designId version =>
    rcases hc : s.caches.get? name with _ | cache
    · simp [step, cost, hc]
    rcases hv : s.version? version with _ | v
    · simp [step, cost, hc, hv]
    · simp [step, cost, hc, hv, eventsFor, cache.queries_eventsFor]
  | resolveIndex name references =>
    have hrun := (ReferenceIndex.resolve references).queries_run s.store
    simp only [step, cost]
    rw [← hrun]
    split <;> rfl
  | _ =>
    simp only [step]
    (repeat' split) <;> simp [cost] <;> rfl

/-- A step makes one query at most.  No question is answered from two queries, and no step asks two
questions. -/
theorem cost_le_one (s : Session) (step : Step) : s.cost step ≤ 1 := by
  have hbatch : ∀ b : Batch, b.cost ≤ 1 := by
    intro b
    unfold Batch.cost
    split <;> decide
  have hmap : ∀ {α : Type} {f : α → Nat} {o : Option α}, (∀ a, f a ≤ 1) →
      (o.map f).getD 0 ≤ 1 := by
    intro α f o hf
    cases o with
    | none => exact Nat.zero_le _
    | some a => exact hf a
  cases step with
  | ask question => exact hmap fun q => q.inquiry.cost_le_one
  | dispatch name => exact hmap fun l => hbatch _
  | resolveAll name identities => exact hmap fun l => hbatch _
  | eventsFor name version =>
    simp only [cost]
    (repeat' split) <;> decide
  | eventFor name designId version =>
    simp only [cost]
    (repeat' split) <;> decide
  | resolveIndex name references => exact (ReferenceIndex.resolve references).cost_le_one
  | _ => exact Nat.zero_le _

/-! ### Steps that need no query -/

/-- The steps that need no query, after the steps before them.  What waits on a loader and what a
cache holds are said in terms of those steps. -/
def Free (before : List Step) : Step → Prop
  | .ask question =>
    ∃ resolved, question.resolve? (after before).design? (after before).version? = some resolved
      ∧ resolved.Free
  | .dispatch name => Step.pinsSince name before = []
  | .resolveAll name identities =>
    Step.pinsSince name before = [] ∧ ∀ identity ∈ identities, Pin.decode? identity = none
  | .eventsFor name version | .eventFor name _ version =>
    ∃ v, (after before).version? version = some v ∧ Loaded before name v.id
  | .resolveIndex _ references => references = []
  | .insertIssue .. | .insertDesign .. | .commitVersion .. | .failNext .. => True
  | .newLoader .. | .dropLoader .. | .load .. | .loadIdentity .. | .loaderState .. => True
  | .poll .. | .dropHandle .. | .newCache .. | .cacheSize .. | .indexGet .. | .indexFind .. => True

/-- What has a result is not refused, if a failure is not. -/
theorem ofExcept_ne_refused {ε : Type} {failure : ε → Outcome}
    (hfailure : ∀ e, failure e ≠ .refused) (r : Except ε Answer) :
    Outcome.ofExcept failure r ≠ .refused := by
  cases r with
  | error e => exact hfailure e
  | ok a => exact Outcome.noConfusion

/-- A look-up of events costs nothing if it is refused or if the version was loaded. -/
private theorem cost_lookup_eq_zero_iff {before : List Step} {step : Step} {name : String}
    {version : Given Version}
    (hcost : (after before).cost step =
      match (after before).caches.get? name, (after before).version? version with
      | some cache, some v => if (cache.byVersion.get? v.id).isSome then 0 else 1
      | _, _ => 0)
    (hrefused : ((after before).step step).1 = .refused
      ↔ (after before).caches.get? name = none ∨ (after before).version? version = none) :
    (after before).cost step = 0 ↔ ((after before).step step).1 = .refused
      ∨ ∃ v, (after before).version? version = some v ∧ Loaded before name v.id := by
  rw [hcost, hrefused]
  cases hc : (after before).caches.get? name with
  | none => simp
  | some cache =>
    cases hv : (after before).version? version with
    | none => simp
    | some v =>
      have hheld : Loaded before name v.id ↔ (cache.byVersion.get? v.id).isSome = true := by
        rw [← holds_after_iff, Holds, hc]
        simp [EventCache.Holds]
      simp [hheld, Option.isSome_iff_ne_none]

/-- A step costs nothing exactly if it is refused or needs no query.  The left-hand side is computed
from the session, the right-hand side is what can be read off its history. -/
theorem cost_eq_zero_iff (before : List Step) (step : Step) :
    (after before).cost step = 0 ↔ ((after before).step step).1 = .refused ∨ Free before step := by
  cases step with
  | ask question =>
    unfold cost Free
    cases h : question.resolve? (after before).design? (after before).version? with
    | none => simp [step, h]
    | some resolved =>
      simp [step, h, Outcome.ofResult, ofExcept_ne_refused, Question.cost_eq_zero_iff]
  | dispatch name =>
    unfold cost Free
    cases hl : (after before).loaders.get? name with
    | none => simp [step, hl]
    | some l =>
      have hempty := isEmpty_pending_iff hl (collects_after before name)
      simp [step, hl, Outcome.ofLoad, ofExcept_ne_refused, Batch.cost_eq_zero_iff, hempty]
  | resolveAll name identities =>
    unfold cost Free
    cases hl : (after before).loaders.get? name with
    | none => simp [step, hl]
    | some l =>
      have hempty := isEmpty_pending_iff hl (collects_after before name)
      simp [step, hl, Outcome.ofLoad, ofExcept_ne_refused, Batch.cost_eq_zero_iff,
        Loader.isEmpty_loadAll_iff, hempty]
  | eventsFor name version =>
    refine cost_lookup_eq_zero_iff rfl ?_
    cases hc : (after before).caches.get? name <;> cases hv : (after before).version? version <;>
      simp [step, hc, hv, Outcome.ofResult, ofExcept_ne_refused]
  | eventFor name designId version =>
    refine cost_lookup_eq_zero_iff rfl ?_
    cases hc : (after before).caches.get? name <;> cases hv : (after before).version? version <;>
      simp [step, hc, hv, Outcome.ofResult, ofExcept_ne_refused]
  | resolveIndex name references =>
    have hanswered : ((after before).step (.resolveIndex name references)).1 ≠ .refused := by
      simp only [step]
      split <;> exact Outcome.noConfusion
    rw [or_iff_right hanswered, cost, ReferenceIndex.resolve, Inquiry.cost_map,
      Resolution.cost_designsByReference_eq_zero_iff, distinct_eq_nil_iff, Free]
  | _ => exact iff_of_true rfl (.inr trivial)

/-- **The budget of a step is one query.** A step makes one query or none, and it makes none exactly
if it is refused or needs none. -/
theorem query_budget (before : List Step) (step : Step) :
    ((after (before ++ [step])).store.queries = (after before).store.queries
        ∨ (after (before ++ [step])).store.queries = (after before).store.queries + 1)
      ∧ ((after (before ++ [step])).store.queries = (after before).store.queries
        ↔ ((after before).step step).1 = .refused ∨ Free before step) := by
  have hcost := cost_le_one (after before) step
  rw [after_append, run_cons, run_nil, queries_step, ← cost_eq_zero_iff]
  constructor
  · omega
  · omega

end Session

end DesignHistory
