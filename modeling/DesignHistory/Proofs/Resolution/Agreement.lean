import Mathlib.Data.List.Forall2
import DesignHistory.CommandLine.Report
import DesignHistory.Proofs.Session.Lookups

/-!
# Ways of resolving an identity

An identity can be resolved by a query of its own, together with others by one query
whose records are looked through afterwards, or by scheduling it on a loader where
others may be waiting.  A further way asks for the designs of one issue only.  All of
them come to `Tables.resolve`.

## Main definitions

* `Tables.resolve`: the stored pair that a text names.

## Main statements

* `Selection.run_records`: the result of a selection, whether or not it costs a query.
* `Loader.collect_loadAll`: the results collected for texts that were scheduled.
* `Session.identity_paths_agree`: the ways agree in every session.
-/

namespace DesignHistory

/-- The design and the version that a text names, if they are stored and belong to one issue.  All
ways to ask for an identity are compared with this, which asks for nothing and schedules nothing. -/
def Tables.resolve (t : Tables) (identity : String) : Option PinnedDesign :=
  (Pin.decode? identity).bind t.pinned?

/-! ### By queries -/

/-- Without an armed failure a selection comes to its records; if no requested pin is
left these are none, as the answer without a query says. -/
theorem Selection.run_records (sel : Selection) {s : Store} (harmed : s.armed = none) :
    (sel.records.run s).1 = .ok (s.tables.select sel) := by
  unfold records
  split
  · rename_i hnothing
    rw [Tables.select, select_of_matchesNothing hnothing]
    rfl
  · rw [Inquiry.run, Store.query, harmed]
    rfl

namespace Resolution

variable {s : Store}

/-- One text, resolved by a query of its own. -/
theorem run_byIdentity (hs : s.tables.Keyed) (harmed : s.armed = none) (identity : String) :
    ((byIdentity identity).run s).1 = .ok (s.tables.resolve identity) := by
  unfold byIdentity Tables.resolve
  cases Pin.decode? identity with
  | none => rfl
  | some pin =>
    rw [Inquiry.result_run_map, Selection.run_records _ harmed, Except.map,
      Tables.head?_select_forPin hs]
    rfl

/-- One text, resolved among the designs of an issue. -/
theorem run_byIdentityInIssue (hs : s.tables.Keyed) (harmed : s.armed = none)
    (issueId : IssueId) (identity : String) :
    ((byIdentityInIssue issueId identity).run s).1
      = .ok ((s.tables.resolve identity).filter fun p => p.design.issueId == issueId) := by
  unfold byIdentityInIssue Tables.resolve
  cases Pin.decode? identity with
  | none => rfl
  | some pin =>
    rw [Inquiry.result_run_map, Selection.run_records _ harmed, Except.map,
      Tables.head?_select_forPin_forIssue hs]
    rfl

/-- Many texts, resolved by one query for all of them. -/
theorem run_byIdentities (hs : s.tables.Keyed) (harmed : s.armed = none)
    (identities : List String) :
    ((byIdentities identities).run s).1 = .ok (identities.map s.tables.resolve) := by
  unfold byIdentities
  rw [Inquiry.result_run_map, Selection.run_records _ harmed, Except.map, List.map_map]
  refine congrArg Except.ok (List.map_congr_left fun identity hidentity => ?_)
  rw [Function.comp_apply, Tables.resolve]
  cases hpin : Pin.decode? identity with
  | none => rfl
  | some pin =>
    have hmem : pin ∈ (identities.map Pin.decode?).filterMap fun pin => pin :=
      List.mem_filterMap.2 ⟨some pin, List.mem_map.2 ⟨identity, hidentity, hpin⟩, rfl⟩
    exact Tables.lookup_select_forPins hs hmem

end Resolution

/-! ### By a batch -/

/-- The place of a text among tickets: none for a text that names no pin, and otherwise a
ticket that waits for the pin. -/
def Batch.Holds (b : Batch) (identity : String) (slot : Option Ticket) : Prop :=
  match Pin.decode? identity with
  | none => slot = none
  | some pin => ∃ t, slot = some t ∧ t ∈ b.waiting pin

/-- What is collected for places among tickets, if each ticket waits for what its text names.
Repeated texts share a pin and have tickets of their own, and so a result each. -/
theorem collect_label {b : Batch} {next : Ticket} (hb : b.Issued next)
    (named : Pin → Option PinnedDesign) {identities : List String} {slots : List (Option Ticket)}
    (h : List.Forall₂ b.Holds identities slots) :
    collect slots (b.label fun pin => .ok (named pin))
      = .ok (identities.map fun identity => (Pin.decode? identity).bind named) := by
  unfold collect
  induction h with
  | nil => rfl
  | @cons identity slot identities slots hslot _ ih =>
    rw [List.mapM_cons, ih, List.map_cons]
    unfold Batch.Holds at hslot
    cases hpin : Pin.decode? identity with
    | none =>
      rw [hpin] at hslot
      subst hslot
      rfl
    | some pin =>
      rw [hpin] at hslot
      obtain ⟨t, rfl, ht⟩ := hslot
      simp only [Batch.answerTo_label hb _ ht]
      rfl

namespace Loader

/-- Scheduling several texts gives each that names a pin a ticket in the line of the
pin. -/
theorem slots_loadAll {l : Loader} {next : Ticket} (identities : List String) :
    List.Forall₂ (l.loadAll next identities).2.1.pending.Holds identities
      (l.loadAll next identities).1 := by
  induction identities generalizing l next with
  | nil => exact .nil
  | cons identity rest ih =>
    unfold loadAll
    split
    · rename_i pin hpin
      refine .cons ?_ ih
      -- the ticket was put in line first, and later texts leave it there
      have hwaits : next ∈ (l.load pin next).pending.waiting pin := by
        rw [waiting_load, if_pos rfl]
        exact List.mem_append_right _ List.mem_cons_self
      rw [Batch.Holds, hpin]
      exact ⟨next, rfl, (mem_waiting_loadAll rest (Nat.lt_succ_self next)).2 hwaits⟩
    · rename_i hpin
      refine .cons ?_ ih
      rw [Batch.Holds, hpin]

/-- What is collected for several texts that were scheduled, once each ticket has what
its pin names. -/
theorem collect_loadAll {l : Loader} {next : Ticket} (hl : l.pending.Issued next)
    (t : Tables) (identities : List String) :
    collect (l.loadAll next identities).1
        ((l.loadAll next identities).2.1.pending.label fun pin => .ok (t.pinned? pin))
      = .ok (identities.map t.resolve) :=
  collect_label (issued_loadAll hl identities) t.pinned? (slots_loadAll identities)

end Loader

/-- The command line schedules its texts on a loader of its own. -/
theorem Lookup.results_select {t : Tables} (ht : t.Keyed) (identities : List String) :
    (Lookup.ofIdentities identities).results
        (.ok (t.select (Lookup.ofIdentities identities).batch.selection))
      = .ok (identities.map t.resolve) := by
  have hanswers := Batch.answers_query (Lookup.ofIdentities identities).batch
    (s := { tables := t }) ht
  have hempty : ({} : Loader).pending.Issued 0 := Batch.issued_empty 0
  rw [← Loader.collect_loadAll hempty t identities]
  exact congrArg (collect (Lookup.ofIdentities identities).slots) hanswers

/-! ### Agreement -/

namespace Session

/-- Texts resolved on a loader, whatever waits there.  What was asked for before is fetched along
with them, and does not change what they come to. -/
theorem outcome_resolveAll {s : Session} (hs : s.Sound) (harmed : s.store.armed = none)
    {name : String} (hl : s.loaders.contains name = true) (identities : List String) :
    (s.step (.resolveAll name identities)).1
      = .answer (.pinnedSlots (identities.map s.store.tables.resolve)) := by
  obtain ⟨l, hl⟩ := Option.isSome_iff_exists.1 hl
  have hfetched : s.store.fetched = fun pin => .ok (s.store.tables.pinned? pin) := by
    funext pin
    rw [Store.fetched, harmed]
  have hresult :
      ∃ n, ((l.loadAll s.nextTicket identities).2.1.dispatch s.store).result = .ok n := by
    rw [Loader.result_dispatch, harmed]
    split
    · exact ⟨_, rfl⟩
    · exact ⟨_, rfl⟩
  obtain ⟨n, hresult⟩ := hresult
  -- what waits on the loader has tickets of its own, which the collected places leave out
  have hcollect := Loader.collect_loadAll (hs.issued hl) s.store.tables identities
  rw [← hfetched, ← Loader.answers_dispatch _ hs.keyed] at hcollect
  simp only [step, hl, dispatch, hresult, hcollect, Except.bind, Except.map, Outcome.ofLoad,
    Outcome.ofExcept_ok]

/-- **An identity comes to the same on every path.** In a session without an armed failure it does
not matter whether a text is asked for alone, with others, or on a loader; asked for in an issue, it
comes to the same if the design is of the issue. -/
theorem identity_paths_agree (before : List Step) (harmed : (after before).store.armed = none) :
    (∀ identity, ((after before).step (.ask (.byIdentity identity))).1
        = .answer (.pinned ((after before).store.tables.resolve identity)))
      ∧ (∀ identities, ((after before).step (.ask (.byIdentities identities))).1
        = .answer (.pinnedSlots (identities.map (after before).store.tables.resolve)))
      ∧ (∀ name identities, (after before).loaders.contains name = true →
        ((after before).step (.resolveAll name identities)).1
          = .answer (.pinnedSlots (identities.map (after before).store.tables.resolve)))
      ∧ (∀ issueId identity, ((after before).step (.ask (.byIdentityInIssue issueId identity))).1
        = .answer (.pinned (((after before).store.tables.resolve identity).filter
            fun p => p.design.issueId == issueId)))
      ∧ ∀ identities, (Lookup.ofIdentities identities).results
          (.ok ((after before).store.tables.select
            (Lookup.ofIdentities identities).batch.selection))
        = .ok (identities.map (after before).store.tables.resolve) := by
  have hkeyed := keyed_after before
  refine ⟨?_, ?_, ?_, ?_, Lookup.results_select hkeyed⟩
  · intro identity
    rw [outcome_ask rfl, Question.inquiry, Inquiry.result_run_map,
      Resolution.run_byIdentity hkeyed harmed]
    rfl
  · intro identities
    rw [outcome_ask rfl, Question.inquiry, Inquiry.result_run_map,
      Resolution.run_byIdentities hkeyed harmed]
    rfl
  · intro name identities hl
    exact outcome_resolveAll (sound_after before) harmed hl identities
  · intro issueId identity
    rw [outcome_ask rfl, Question.inquiry, Inquiry.result_run_map,
      Resolution.run_byIdentityInIssue hkeyed harmed]
    rfl

/-- Two issues with a stored pair each, and a loader on which a lookup waits. -/
def twoPairs : List Step :=
  [.insertIssue 7 "a", .insertDesign (.stored 1) "b",
    .commitVersion (.stored 1) [(2, .creation)] default, .insertIssue 7 "c",
    .insertDesign (.stored 4) "d", .commitVersion (.stored 4) [(5, .creation)] default,
    .newLoader "l", .load "l" ⟨2, 3⟩ "h"]

/-- The pair of the first issue in `twoPairs`. -/
def firstPair : PinnedDesign :=
  .of ⟨2, 7, 1, "b"⟩ ⟨3, 1, Version.computeSha 1 none [⟨2, 3, .creation⟩], none, default⟩

/-- The pair of the second issue in `twoPairs`. -/
def secondPair : PinnedDesign :=
  .of ⟨5, 7, 4, "d"⟩ ⟨6, 4, Version.computeSha 4 none [⟨5, 6, .creation⟩], none, default⟩

/-- The name of a stored pair twice, a text that names no pin, the pair of the other issue, a
design with the version of the other issue, and a pin that is not stored. -/
def mixedIdentities : List String := ["2.3", "x", "5.6", "2.6", "9.9", "2.3"]

/-- What is resolved for `mixedIdentities`, in every way. -/
theorem identity_paths_agree_beside_waiting :
    ((after twoPairs).step (.resolveAll "l" mixedIdentities)).1
        = .answer (.pinnedSlots
            [some firstPair, none, some secondPair, none, none, some firstPair])
      ∧ ((after twoPairs).step (.ask (.byIdentities mixedIdentities))).1
        = .answer (.pinnedSlots
            [some firstPair, none, some secondPair, none, none, some firstPair])
      ∧ ((after twoPairs).step (.ask (.byIdentity "5.6"))).1 = .answer (.pinned (some secondPair))
      ∧ ((after twoPairs).step (.ask (.byIdentityInIssue 4 "5.6"))).1
        = .answer (.pinned (some secondPair))
      ∧ ((after twoPairs).step (.ask (.byIdentityInIssue 1 "5.6"))).1 = .answer (.pinned none) := by
  have hresolved : mixedIdentities.map (after twoPairs).store.tables.resolve
      = [some firstPair, none, some secondPair, none, none, some firstPair] := rfl
  obtain ⟨hone, hmany, hloader, hissue, -⟩ := identity_paths_agree twoPairs (by decide)
  exact ⟨hresolved ▸ hloader "l" mixedIdentities (by decide), hresolved ▸ hmany mixedIdentities,
    hone "5.6", hissue 4 "5.6", hissue 1 "5.6"⟩

end Session

end DesignHistory
