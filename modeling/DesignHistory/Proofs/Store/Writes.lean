import DesignHistory.Proofs.Session.Run

/-!
# What is written into a store

Of everything that can happen in a session only three steps change a record, and
each of them adds records under the next id.  This module says so once, as an
equation between the records after a step and those before it, and proves from it
what holds of the records of every session.

## Main definitions

* `Store.Write`, `Store.write`: what can be written, and the store afterwards.
* `Session.write?`: what a step of a session writes.
* `Tables.Keyed`: every table maps an id to a record with that id.

## Main statements

* `Session.tables_step`, `Session.lastId_step`: a step changes the records only by
  what it writes.
* `Session.keyed_after`: the tables of every session are keyed.
-/

namespace DesignHistory

/-! ### Writing -/

namespace Store

/-- What can be written into a store.  Every change of the tables is one of these three, and
invariants of the tables are shown for each of them. -/
inductive Write where
  | issue (projectId : ProjectId) (title : String)
  | design (issue : Issue) (filename : String)
  | version (issue : Issue) (events : List (DesignId × Event)) (createdAt : Instant)

/-- The store with something written. -/
def write (s : Store) : Write → Store
  | .issue projectId title => (s.insertIssue projectId title).2
  | .design issue filename => (s.insertDesign issue filename).2
  | .version issue events createdAt => (s.commitVersion issue events createdAt).2

@[simp]
theorem lastId_write (s : Store) (w : Write) : (s.write w).lastId = s.nextId := by
  cases w <;> rfl

end Store

namespace Session

/-- What a step writes, if it does.  A step that is refused, because its issue is not known, writes
nothing. -/
def write? (s : Session) : Step → Option Store.Write
  | .insertIssue projectId title => some (.issue projectId title)
  | .insertDesign issue filename => (s.issue? issue).map fun issue => .design issue filename
  | .commitVersion issue events createdAt =>
    (s.issue? issue).map fun issue => .version issue events createdAt
  | _ => none

/-- The store with what a step writes, nothing else having happened to it. -/
def written (s : Session) (step : Step) : Store :=
  match s.write? step with
  | some w => s.store.write w
  | none => s.store

theorem written_of_none {s : Session} {step : Step} (h : s.write? step = none) :
    s.written step = s.store := by
  rw [written, h]

theorem written_of_some {s : Session} {step : Step} {w : Store.Write}
    (h : s.write? step = some w) : s.written step = s.store.write w := by
  rw [written, h]

/-- A commit answers with the version that it writes. -/
theorem write?_of_commit {s : Session} {given : Given Issue}
    {events : List (DesignId × Event)} {createdAt : Instant} {v : Version}
    (h : (s.step (.commitVersion given events createdAt)).1 = .answer (.version (some v))) :
    ∃ issue, s.write? (.commitVersion given events createdAt)
        = some (.version issue events createdAt)
      ∧ (s.store.commitVersion issue events createdAt).1 = v := by
  cases hissue : s.issue? given with
  | none =>
    simp only [step, hissue] at h
    cases h
  | some issue =>
    simp only [step, hissue] at h
    cases h
    exact ⟨issue, by rw [write?, hissue, Option.map_some], rfl⟩

@[simp]
theorem store_withoutLoader (s : Session) (name : String) :
    (s.withoutLoader name).store = s.store := by
  unfold withoutLoader
  split <;> rfl

@[simp]
theorem store_schedule (s : Session) (name : String) (loader : Loader) (pin : Option Pin)
    (handle : String) : (s.schedule name loader pin handle).1.store = s.store := by
  cases pin <;> rfl

/-- A step leaves the store, but for its counter of queries and the armed failure,
as it was with what the step writes. -/
private theorem records_step (s : Session) (step : Step) :
    (s.step step).2.store.tables = (s.written step).tables
      ∧ (s.step step).2.store.lastId = (s.written step).lastId := by
  cases step with
  | insertIssue projectId title => exact ⟨rfl, rfl⟩
  | insertDesign issue filename =>
    cases h : s.issue? issue <;> simp [step, written, write?, h, Store.write]
  | commitVersion issue events createdAt =>
    cases h : s.issue? issue <;> simp [step, written, write?, h, Store.write]
  | failNext message => exact ⟨rfl, rfl⟩
  | ask question =>
    cases h : question.resolve? s.design? s.version? <;> simp [step, written, write?, h]
  | newLoader name => simp [step, written, write?]
  | dropLoader name => simp [step, written, write?]
  | load name pin handle =>
    cases h : s.loaders.get? name <;> simp [step, written, write?, h]
  | loadIdentity name identity handle =>
    cases h : s.loaders.get? name <;> simp [step, written, write?, h]
  | dispatch name =>
    cases h : s.loaders.get? name with
    | none => simp [step, written, write?, h]
    | some loader =>
      rcases loader.store_dispatch s.store with hd | hd <;>
        simp [step, dispatch, written, write?, h, hd]
  | loaderState name =>
    cases h : s.loaders.get? name <;> simp [step, written, write?, h]
  | resolveAll name identities =>
    cases h : s.loaders.get? name with
    | none => simp [step, written, write?, h]
    | some loader =>
      rcases (loader.loadAll s.nextTicket identities).2.1.store_dispatch s.store with hd | hd <;>
        simp [step, dispatch, written, write?, h, hd]
  | poll handle =>
    rcases h : s.handles.get? handle with _ | _ | _ <;> simp [step, written, write?, h]
  | dropHandle handle => exact ⟨rfl, rfl⟩
  | newCache cache => exact ⟨rfl, rfl⟩
  | eventsFor name version =>
    rcases hc : s.caches.get? name with _ | cache
    · simp [step, written, write?, hc]
    rcases hv : s.version? version with _ | v
    · simp [step, written, write?, hc, hv]
    rcases cache.store_eventsFor v s.store with hd | hd <;>
      simp [step, eventsFor, written, write?, hc, hv, hd]
  | eventFor name designId version =>
    rcases hc : s.caches.get? name with _ | cache
    · simp [step, written, write?, hc]
    rcases hv : s.version? version with _ | v
    · simp [step, written, write?, hc, hv]
    rcases cache.store_eventsFor v s.store with hd | hd <;>
      simp [step, eventsFor, written, write?, hc, hv, hd]
  | cacheSize name => cases h : s.caches.get? name <;> simp [step, written, write?, h]
  | resolveIndex name references =>
    rcases h : (ReferenceIndex.resolve references).run s.store with ⟨_ | _, store⟩ <;>
      have ht := Inquiry.tables_run (ReferenceIndex.resolve references) s.store <;>
      have hl := Inquiry.lastId_run (ReferenceIndex.resolve references) s.store <;>
      simp_all [step, written, write?]
  | indexGet name projectId issueId filename =>
    cases h : s.indexes.get? name <;> simp [step, written, write?, h]
  | indexFind name reference => cases h : s.indexes.get? name <;> simp [step, written, write?, h]

/-- **A step changes the tables only by what it writes.** So an invariant of the tables need not be
shown for every kind of step. -/
theorem tables_step (s : Session) (step : Step) :
    (s.step step).2.store.tables = (s.written step).tables :=
  (s.records_step step).1

/-- A step gives out an id only for what it writes. -/
theorem lastId_step (s : Session) (step : Step) :
    (s.step step).2.store.lastId = (s.written step).lastId :=
  (s.records_step step).2

end Session

/-! ### Records under their own ids -/

/-- Every table has a record under an id only if it is the record's own id.  It is what makes
looking up and filtering come to the same. -/
structure Tables.Keyed (t : Tables) : Prop where
  issue : ∀ {id i}, t.issues.get? id = some i → i.id = id
  design : ∀ {id d}, t.designs.get? id = some d → d.id = id
  version : ∀ {id v}, t.versions.get? id = some v → v.id = id

/-- The designs in a table are under their own ids. -/
theorem Tables.Keyed.mem_designs_iff {t : Tables} (ht : t.Keyed) {d : Design} :
    d ∈ t.designs.values ↔ t.designs.get? d.id = some d :=
  SortedMap.mem_values_iff_of_keyed ht.design

/-- The versions in a table are under their own ids. -/
theorem Tables.Keyed.mem_versions_iff {t : Tables} (ht : t.Keyed) {v : Version} :
    v ∈ t.versions.values ↔ t.versions.get? v.id = some v :=
  SortedMap.mem_values_iff_of_keyed ht.version

/-- Inserting a record under its own id keeps a table keyed. -/
private theorem key_eq_of_get?_insert {α : Type} {idOf : α → Int64} {m : SortedMap Int64 α}
    (hm : ∀ {id a}, m.get? id = some a → idOf a = id) (new : α) {id : Int64} {a : α}
    (h : (m.insert (idOf new) new).get? id = some a) : idOf a = id := by
  rw [SortedMap.get?_insert] at h
  split at h
  · rename_i hid
    cases h
    exact hid.symm
  · exact hm h

theorem Store.keyed_write {s : Store} (h : s.tables.Keyed) (w : Write) :
    (s.write w).tables.Keyed := by
  cases w with
  | issue projectId title => exact ⟨key_eq_of_get?_insert h.issue _, h.design, h.version⟩
  | design issue filename => exact ⟨h.issue, key_eq_of_get?_insert h.design _, h.version⟩
  | version issue events createdAt =>
    exact ⟨h.issue, h.design, key_eq_of_get?_insert h.version _⟩

namespace Session

theorem keyed_step {s : Session} (h : s.store.tables.Keyed) (step : Step) :
    (s.step step).2.store.tables.Keyed := by
  rw [tables_step, written]
  split
  · exact Store.keyed_write h _
  · exact h

/-- A version that a commit answers with is stored under the last id given out. -/
theorem stored_of_commit {s : Session} {given : Given Issue} {events : List (DesignId × Event)}
    {createdAt : Instant} {v : Version}
    (h : (s.step (.commitVersion given events createdAt)).1 = .answer (.version (some v))) :
    v.id = (s.step (.commitVersion given events createdAt)).2.store.lastId
      ∧ (s.step (.commitVersion given events createdAt)).2.store.tables.versions.get? v.id
        = some v := by
  obtain ⟨issue, hwrite, rfl⟩ := write?_of_commit h
  rw [tables_step, lastId_step, written_of_some hwrite]
  exact ⟨rfl, SortedMap.get?_insert_self _ _ _⟩

/-- The tables of every session are keyed. -/
theorem keyed_after (steps : List Step) : (after steps).store.tables.Keyed := by
  refine after_induction (P := fun s => s.store.tables.Keyed) ?_ (fun _ step h => keyed_step h step)
    steps
  constructor <;> intro id r h <;> cases h

end Session

end DesignHistory
