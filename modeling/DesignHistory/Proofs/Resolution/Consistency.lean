import DesignHistory.Database.Client
import DesignHistory.Session

/-!
# Pairs that belong together

A pinned design is put together in several places, and most of them do not compare the
issues of its parts: a join does so for its rows, a snapshot for its designs, and only a
pair in hand and a row of a database are checked on their own.  Whatever is asked, no
answer has a pair of two issues.

## Main definitions

* `Answer.pinnedDesigns`: the pinned designs in an answer.
* `Inquiry.Yields`: whatever an inquiry comes to has a property.

## Main statements

* `Question.yields_consistent`: whatever a question comes to, for any designs and versions
  it is asked about.
* `Database.consistent_of_loadPinned`: whatever a database replies.
-/

namespace DesignHistory

/-! ### Pinned designs in answers -/

/-- The pinned designs in an answer.  All kinds of answers that can have one are here, so that
nothing which is handed out escapes what is proved about these. -/
def Answer.pinnedDesigns : Answer → List PinnedDesign
  | .pinned value | .ready value => value.toList
  | .pinnedList value => value
  | .pinnedSlots value => value.filterMap fun p => p
  | _ => []

/-- The pinned designs in what becomes of a step. -/
def Outcome.pinnedDesigns : Outcome → List PinnedDesign
  | .answer a => a.pinnedDesigns
  | _ => []

/-- The pinned designs in an answer belong together. -/
def Answer.Consistent (a : Answer) : Prop := ∀ p ∈ a.pinnedDesigns, p.Consistent

/-- If a failure has no place for a pinned design, one in what becomes of a result is in the
answer. -/
theorem Outcome.exists_of_mem_ofExcept {ε : Type} {failure : ε → Outcome}
    (hfailure : ∀ e, (failure e).pinnedDesigns = []) {r : Except ε Answer} {p : PinnedDesign}
    (h : p ∈ (ofExcept failure r).pinnedDesigns) : ∃ a, r = .ok a ∧ p ∈ a.pinnedDesigns := by
  cases r with
  | error e =>
    rw [ofExcept_error, hfailure] at h
    cases h
  | ok a => exact ⟨a, rfl, h⟩

/-! ### Inquiries -/

namespace Inquiry

variable {α β : Type} {P : α → Prop} {Q : β → Prop} {q : Inquiry α}

/-- Whatever an inquiry comes to has a property.  For one that reads the tables it is asked of all
tables, not only of those that some session leads to. -/
def Yields (P : α → Prop) : Inquiry α → Prop
  | settled result => ∀ a, result = .ok a → P a
  | asks read => ∀ t, P (read t)

/-- A change of the result gives what the function makes of it. -/
theorem Yields.map {f : α → β} (h : q.Yields P) (hf : ∀ a, P a → Q (f a)) :
    (q.map f).Yields Q := by
  cases q with
  | settled result =>
    intro b hb
    cases result with
    | error e => cases hb
    | ok a =>
      cases hb
      exact hf a (h a rfl)
  | asks read => exact fun t => hf (read t) (h t)

/-- What a function gives on everything, it gives on what an inquiry comes to. -/
theorem yields_map_of_forall {f : α → β} (hf : ∀ a, Q (f a)) (q : Inquiry α) :
    (q.map f).Yields Q := by
  have hany : q.Yields fun _ => True := by
    cases q with
    | settled result => exact fun _ _ => trivial
    | asks read => exact fun _ => trivial
  exact hany.map fun a _ => hf a

/-- The result of a run is what the inquiry comes to. -/
theorem Yields.of_run {s : Store} {a : α} (h : q.Yields P) (hrun : (q.run s).1 = .ok a) :
    P a := by
  cases q with
  | settled result => exact h a hrun
  | asks read =>
    simp only [run, Store.query] at hrun
    split at hrun
    · cases hrun
    · cases hrun
      exact h s.tables

end Inquiry

/-! ### Where pairs are made -/

/-- The designs in sight as of a version are of its issue. -/
theorem issueId_of_mem_snapshot {v : Version} {designs : List Design} {actions : List Action}
    {filter : DesignFilter} {d : Design} (h : d ∈ snapshot v designs actions filter) :
    d.issueId = v.issueId := by
  have hmem := (sortOn_perm _ _).mem_iff.1 h
  obtain ⟨-, hd⟩ := List.mem_filter.1 hmem
  simp only [Bool.and_eq_true, beq_iff_eq] at hd
  exact hd.1.1

theorem PinnedDesign.mem_of_lookup {pin : Pin} {records : List PinnedDesign} {p : PinnedDesign}
    (h : PinnedDesign.lookup pin records = some p) : p ∈ records :=
  List.mem_reverse.1 (List.mem_of_find?_eq_some h)

/-- The records of a selection belong together. -/
theorem Selection.yields_records (s : Selection) :
    s.records.Yields fun ps => ∀ p ∈ ps, p.Consistent := by
  unfold records
  split
  · intro ps hps p hp
    cases hps
    cases hp
  · exact fun t p hp => consistent_of_mem_select hp

theorem Selection.yields_head?_records (s : Selection) :
    (s.records.map List.head?).Yields fun value => ∀ p, value = some p → p.Consistent :=
  s.yields_records.map fun _ hps p hp => hps p (List.mem_of_head? hp)

namespace Resolution

theorem yields_byIdentity (identity : String) :
    (byIdentity identity).Yields fun value => ∀ p, value = some p → p.Consistent := by
  unfold byIdentity
  split
  · exact Selection.yields_head?_records _
  · rintro value ⟨⟩ p ⟨⟩

/-- What a text names in an issue belongs together. -/
theorem yields_byIdentityInIssue (issueId : IssueId) (identity : String) :
    (byIdentityInIssue issueId identity).Yields fun value =>
      ∀ p, value = some p → p.Consistent := by
  unfold byIdentityInIssue
  split
  · exact Selection.yields_head?_records _
  · rintro value ⟨⟩ p ⟨⟩

/-- What each of several texts names belongs together. -/
theorem yields_byIdentities (identities : List String) :
    (byIdentities identities).Yields fun slots => ∀ p, some p ∈ slots → p.Consistent := by
  refine (Selection.yields_records _).map fun records hrecords p hp => ?_
  obtain ⟨pin, -, hlookup⟩ := List.mem_map.1 hp
  obtain ⟨pin, -, hlookup⟩ := Option.bind_eq_some_iff.1 hlookup
  exact hrecords p (PinnedDesign.mem_of_lookup hlookup)

/-- The designs in sight as of a version belong to it. -/
theorem yields_allForVersion (version : Version) (filter : DesignFilter) :
    (allForVersion version filter).Yields fun ps => ∀ p ∈ ps, p.Consistent := by
  intro t p hp
  obtain ⟨d, hd, rfl⟩ := List.mem_map.1 hp
  exact PinnedDesign.consistent_of (issueId_of_mem_snapshot hd)

/-- The one design as of a version that a lookup means belongs to it. -/
theorem yields_oneForVersion (version : Version) (lookup : PinLookup) :
    (oneForVersion version lookup).Yields fun value => ∀ p, value = some p → p.Consistent := by
  unfold oneForVersion
  split
  · rintro value ⟨⟩
  · split
    · rintro value ⟨⟩ p ⟨⟩
    · split
      · exact Selection.yields_head?_records _
      · rintro value ⟨⟩ p ⟨⟩
  · exact (yields_allForVersion version _).map fun _ hps p hp => hps p (List.mem_of_head? hp)

/-- A pair in hand that is not refused belongs together. -/
theorem yields_pair (design : Design) (version : Version) :
    (pair design version).Yields PinnedDesign.Consistent := by
  intro p hp
  cases hpair : PinnedDesign.ofPair design version with
  | error e =>
    rw [hpair] at hp
    cases hp
  | ok p' =>
    rw [hpair] at hp
    cases hp
    exact (PinnedDesign.ofPair_eq_ok_iff.1 hpair).2

end Resolution

/-! ### Questions -/

namespace Answer

theorem consistent_of_nil {a : Answer} (h : a.pinnedDesigns = []) : a.Consistent := by
  intro p hp
  rw [h] at hp
  cases hp

theorem consistent_pinned {value : Option PinnedDesign}
    (h : ∀ p, value = some p → p.Consistent) : (pinned value).Consistent :=
  fun p hp => h p (Option.mem_toList.1 hp)

/-- An answer of one pinned design for each of several texts, or none. -/
theorem consistent_pinnedSlots {slots : List (Option PinnedDesign)}
    (h : ∀ p, some p ∈ slots → p.Consistent) : (pinnedSlots slots).Consistent := by
  intro p hp
  obtain ⟨slot, hslot, rfl⟩ := List.mem_filterMap.1 hp
  exact h p hslot

end Answer

/-- Whatever a question comes to, the pinned designs in the answer belong together.  A design and a
version that are given in full are no exception, since pairing them is where the issue is
checked. -/
theorem Question.yields_consistent (question : Question Design Version) :
    question.inquiry.Yields Answer.Consistent := by
  -- most answers have no place for a pinned design
  have hnil : ∀ {α : Type} (f : α → Answer) (q : Inquiry α), (∀ a, (f a).pinnedDesigns = []) →
      (q.map f).Yields Answer.Consistent := fun f q hf =>
    Inquiry.yields_map_of_forall (fun a => Answer.consistent_of_nil (hf a)) q
  cases question with
  | designsByReference references =>
    exact hnil .designs (Resolution.designsByReference references) fun _ => rfl
  | versionBySha issueId sha =>
    exact hnil .version (Resolution.versionBySha issueId sha) fun _ => rfl
  | changedDesigns v =>
    exact hnil .designs (Resolution.changedDesigns v) fun _ => rfl
  | loadAlways chain => exact fun t p hp => Selection.consistent_of_mem_select hp
  | count chain =>
    exact hnil (fun n : Nat => .number n) (Selection.ofChain chain).count fun _ => rfl
  | isEmpty chain =>
    exact hnil .flag (Selection.ofChain chain).isEmpty fun _ => rfl
  | records chain => exact (Selection.yields_records _).map fun _ h => h
  | byIdentity identity =>
    exact (Resolution.yields_byIdentity identity).map fun _ => Answer.consistent_pinned
  | byIdentityInIssue issueId identity =>
    exact (Resolution.yields_byIdentityInIssue issueId identity).map
      fun _ => Answer.consistent_pinned
  | byIdentities identities =>
    exact (Resolution.yields_byIdentities identities).map fun _ => Answer.consistent_pinnedSlots
  | pair d v =>
    refine (Resolution.yields_pair d v).map fun p hp => Answer.consistent_pinned ?_
    rintro p' ⟨⟩
    exact hp
  | eventAt d v =>
    cases hpair : PinnedDesign.ofPair d v with
    | ok p =>
      rw [inquiry, hpair]
      exact hnil .event (Resolution.eventAt p) fun _ => rfl
    | error e =>
      rw [inquiry, hpair]
      rintro a ⟨⟩
  | allForVersion v filter => exact (Resolution.yields_allForVersion v filter).map fun _ h => h
  | oneForVersion v lookup =>
    exact (Resolution.yields_oneForVersion v lookup).map fun _ => Answer.consistent_pinned
  | designLookup issueId lookup =>
    exact hnil .design (Resolution.design issueId lookup) fun _ => rfl
  | versionsUpTo issueId limit =>
    exact hnil .versions (Resolution.versions issueId limit) fun _ => rfl
  | _ => exact fun t => Answer.consistent_of_nil rfl

/-! ### Replies of a database -/

/-- A result that another one goes into is there if both are. -/
theorem exists_of_bind_eq_ok {α β ε : Type} {x : Except ε α} {f : α → Except ε β} {b : β}
    (h : x >>= f = .ok b) : ∃ a, x = .ok a ∧ f a = .ok b := by
  cases x with
  | error e => cases h
  | ok a => exact ⟨a, rfl, h⟩

/-- A result that a function is applied to is there if the outcome is. -/
theorem exists_of_map_eq_ok {α β ε : Type} {x : Except ε α} {f : α → β} {b : β}
    (h : x.map f = .ok b) : ∃ a, x = .ok a ∧ f a = b := by
  cases x with
  | error e => cases h
  | ok a => exact ⟨a, rfl, Except.ok.inj h⟩

/-- What stands among the results for a list is the result for one of its elements. -/
theorem exists_of_mem_mapM {α β ε : Type} {read : β → Except ε α} {l : List β} {as : List α}
    (h : l.mapM read = .ok as) {a : α} (ha : a ∈ as) : ∃ b ∈ l, read b = .ok a := by
  induction l generalizing as with
  | nil =>
    cases h
    cases ha
  | cons b rest ih =>
    rw [List.mapM_cons] at h
    obtain ⟨a', hb, h⟩ := exists_of_bind_eq_ok h
    obtain ⟨as', hrest, h⟩ := exists_of_bind_eq_ok h
    cases h
    rcases List.mem_cons.1 ha with rfl | ha
    · exact ⟨b, List.mem_cons_self, hb⟩
    · obtain ⟨b', hb', hread⟩ := ih hrest ha
      exact ⟨b', List.mem_cons_of_mem _ hb', hread⟩

namespace Database

/-- A pair that is read from a joined row belongs together. -/
theorem consistent_of_readPinned {split : ColumnSplit} {r : Row} {p : PinnedDesign}
    (h : readPinned split r = .ok p) : p.Consistent := by
  obtain ⟨d, -, h⟩ := exists_of_bind_eq_ok h
  obtain ⟨v, -, h⟩ := exists_of_bind_eq_ok h
  cases hpair : PinnedDesign.ofPair d v with
  | error e =>
    rw [hpair] at h
    cases h
  | ok p' =>
    rw [hpair] at h
    cases h
    exact (PinnedDesign.ofPair_eq_ok_iff.1 hpair).2

/-- Pairs that are read from joined rows belong together, whatever the rows are. -/
theorem consistent_of_readJoined {columns : List String} {rows : List (List Sql.Cell)}
    {ps : List PinnedDesign} (h : readJoined columns rows = .ok ps) :
    ∀ p ∈ ps, p.Consistent := by
  intro p hp
  unfold readJoined at h
  split at h
  · cases h
    cases hp
  · split at h
    · cases h
    · obtain ⟨r, -, hr⟩ := exists_of_mem_mapM h hp
      exact consistent_of_readPinned hr

/-- The pairs that a database is asked for belong together, whatever it replies.  The reply is not
assumed to fit the statement. -/
theorem consistent_of_loadPinned {s : Selection} {reply : Reply} {ps : List PinnedDesign}
    (h : ((loadPinned s).perform reply).result = .ok ps) : ∀ p ∈ ps, p.Consistent := by
  unfold Request.perform at h
  split at h
  · cases h
  · cases h
  · split at h
    · rename_i as has
      cases h
      exact consistent_of_readJoined has
    · cases h

end Database

end DesignHistory
