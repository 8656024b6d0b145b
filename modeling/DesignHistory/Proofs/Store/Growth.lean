import DesignHistory.Proofs.Store.Writes

/-!
# How a store grows

As long as ids are left, everything that is written gets an id above all earlier ones.
So it is listed after them, and the tables of a later moment are those of an earlier one
with records added at the end.

## Main definitions

* `Lengthened`: a list with elements added that have ids above a bound.
* `Tables.Continued`: tables with records added whose ids are above a bound.
* `Store.Bounded`: no id in the tables is above the last one given out.
* `Session.IdsSuffice`: the ids suffice for steps from the start.

## Main statements

* `Store.continued_write`: what is written is added at the end.
* `Session.bounded_after`, `Session.continues_after`: the tables of every session are
  bounded, and continue those of each moment before.
* `Session.stored_after_commit`: a version that was committed is stored at every later
  moment.
* `Session.idsSuffice_of_countP`: the ids suffice for as many writing steps as there are
  positive ids.
-/

namespace DesignHistory

/-! ### Lists with elements added -/

/-- A list that goes on with elements whose ids are above a bound.  What is looked up below the
bound is then looked up in the old part. -/
def Lengthened {α : Type} (idOf : α → Int64) (bound : Int64) (l l' : List α) : Prop :=
  ∃ more, l' = l ++ more ∧ ∀ a ∈ more, bound < idOf a

namespace Lengthened

variable {α : Type} {idOf : α → Int64} {bound : Int64} {l l' l'' : List α}

theorem refl (idOf : α → Int64) (bound : Int64) (l : List α) : Lengthened idOf bound l l :=
  ⟨[], (List.append_nil l).symm, fun _ ha => absurd ha List.not_mem_nil⟩

theorem singleton (l : List α) {a : α} (h : bound < idOf a) :
    Lengthened idOf bound l (l ++ [a]) :=
  ⟨[a], rfl, fun b hb => by rw [List.mem_singleton.1 hb]; exact h⟩

theorem trans {bound' : Int64} (h : Lengthened idOf bound l l') (h' : Lengthened idOf bound' l' l'')
    (hbound : bound ≤ bound') : Lengthened idOf bound l l'' := by
  obtain ⟨more, rfl, hmore⟩ := h
  obtain ⟨more', rfl, hmore'⟩ := h'
  refine ⟨more ++ more', List.append_assoc _ _ _, fun a ha => ?_⟩
  rcases List.mem_append.1 ha with ha | ha
  · exact hmore a ha
  · exact Int64.lt_of_le_of_lt hbound (hmore' a ha)

theorem mem (h : Lengthened idOf bound l l') {a : α} (ha : a ∈ l) : a ∈ l' := by
  obtain ⟨more, rfl, -⟩ := h
  exact List.mem_append_left _ ha

/-- A filter that takes nothing above the bound takes nothing new. -/
theorem filter_eq (h : Lengthened idOf bound l l') {p : α → Bool}
    (hp : ∀ a ∈ l', bound < idOf a → p a = false) : l'.filter p = l.filter p := by
  obtain ⟨more, rfl, hmore⟩ := h
  have hnone : more.filter p = [] := List.filter_eq_nil_iff.2 fun a ha =>
    Bool.eq_false_iff.1 (hp a (List.mem_append_right _ ha) (hmore a ha))
  rw [List.filter_append, hnone, List.append_nil]

/-- What is found nowhere above the bound is found if it was. -/
theorem any_eq (h : Lengthened idOf bound l l') {p : α → Bool}
    (hp : ∀ a ∈ l', bound < idOf a → p a = false) : l'.any p = l.any p := by
  have hfilter := congrArg (fun l => l.any fun _ => true) (h.filter_eq hp)
  simpa only [List.any_filter, Bool.and_true] using hfilter

end Lengthened

/-! ### Tables with records added -/

/-- Tables with records added at the end, all with ids above a bound.  Records are never changed and
never removed, which is why this is enough to describe what time does to tables. -/
structure Tables.Continued (bound : Int64) (t t' : Tables) : Prop where
  issues : Lengthened Issue.id bound t.issues.values t'.issues.values
  designs : Lengthened Design.id bound t.designs.values t'.designs.values
  versions : Lengthened Version.id bound t.versions.values t'.versions.values
  actions : Lengthened Action.versionId bound t.actions t'.actions

namespace Tables.Continued

variable {bound : Int64} {t t' t'' : Tables}

theorem refl (bound : Int64) (t : Tables) : t.Continued bound t :=
  ⟨.refl _ _ _, .refl _ _ _, .refl _ _ _, .refl _ _ _⟩

theorem trans {bound' : Int64} (h : t.Continued bound t') (h' : t'.Continued bound' t'')
    (hbound : bound ≤ bound') : t.Continued bound t'' :=
  ⟨h.issues.trans h'.issues hbound, h.designs.trans h'.designs hbound,
    h.versions.trans h'.versions hbound, h.actions.trans h'.actions hbound⟩

theorem actionsOfVersion_eq (h : t.Continued bound t') {id : VersionId} (hid : id ≤ bound) :
    t'.actionsOfVersion id = t.actionsOfVersion id := by
  unfold Tables.actionsOfVersion
  rw [h.actions.filter_eq]
  intro a _ ha
  exact beq_eq_false_iff_ne.2 (Int64.ne_of_lt (Int64.lt_of_le_of_lt hid ha)).symm

end Tables.Continued

namespace Store

/-- Every record has its own id, and no id is above the last one given out.  So the next id is a new
one, as long as there is a next one. -/
structure Bounded (s : Store) : Prop where
  keyed : s.tables.Keyed
  issue : ∀ {id i}, s.tables.issues.get? id = some i → id ≤ s.lastId
  design : ∀ {id d}, s.tables.designs.get? id = some d → id ≤ s.lastId
  version : ∀ {id v}, s.tables.versions.get? id = some v → id ≤ s.lastId
  action : ∀ {a}, a ∈ s.tables.actions → a.versionId ≤ s.lastId

/-- While ids are left the next id is one more than the last one. -/
theorem toInt_nextId {s : Store} (h : s.lastId < Int64.maxValue) :
    s.nextId.toInt = s.lastId.toInt + 1 := by
  rw [Int64.lt_iff_toInt_lt, Int64.toInt_maxValue] at h
  have hge := s.lastId.le_toInt
  rw [nextId, Int64.toInt_add, Int64.toInt_one, Int.bmod_eq_of_le]
  · omega
  · omega

theorem lastId_lt_nextId {s : Store} (h : s.lastId < Int64.maxValue) : s.lastId < s.nextId := by
  rw [Int64.lt_iff_toInt_lt, toInt_nextId h]
  exact Int.lt_succ _

/-- A record under an id above all keys is listed last. -/
theorem values_insert_of_bounded {α : Type} {m : SortedMap Int64 α} {bound k : Int64}
    (hm : ∀ {id a}, m.get? id = some a → id ≤ bound) (hk : bound < k) (a : α) :
    (m.insert k a).values = m.values ++ [a] := by
  refine SortedMap.values_insert_of_last (fun id hid => ?_) a
  obtain ⟨b, hb⟩ := Option.isSome_iff_exists.1 (SortedMap.mem_keys_iff.1 hid)
  exact decide_eq_true (Int64.lt_of_le_of_lt (hm hb) hk)

/-- A table goes on with a record under an id above all keys. -/
private theorem continued_insert {α : Type} {idOf : α → Int64} {m : SortedMap Int64 α}
    {bound : Int64} (hm : ∀ {id a}, m.get? id = some a → id ≤ bound) {a : α}
    (ha : bound < idOf a) : Lengthened idOf bound m.values (m.insert (idOf a) a).values := by
  rw [values_insert_of_bounded hm ha]
  exact .singleton _ ha

/-- What is written is added to the tables under an id above all others. -/
theorem continued_write {s : Store} (hs : s.Bounded) (hleft : s.lastId < Int64.maxValue)
    (w : Write) : s.tables.Continued s.lastId (s.write w).tables := by
  have hnext := lastId_lt_nextId hleft
  cases w with
  | issue projectId title =>
    exact ⟨continued_insert hs.issue hnext, .refl _ _ _, .refl _ _ _, .refl _ _ _⟩
  | design issue filename =>
    exact ⟨.refl _ _ _, continued_insert hs.design hnext, .refl _ _ _, .refl _ _ _⟩
  | version issue events createdAt =>
    refine ⟨.refl _ _ _, .refl _ _ _, continued_insert hs.version hnext, _, rfl, ?_⟩
    intro a ha
    obtain ⟨e, -, rfl⟩ := List.mem_map.1 ha
    exact hnext

/-- An insertion under the next id keeps the keys of a table bounded. -/
private theorem le_of_get?_insert {α : Type} {m : SortedMap Int64 α} {last next : Int64}
    (hm : ∀ {id a}, m.get? id = some a → id ≤ last) (hnext : last < next) {new : α} {id : Int64}
    {a : α} (h : (m.insert next new).get? id = some a) : id ≤ next := by
  rw [SortedMap.get?_insert] at h
  split at h
  · rename_i hid
    exact hid ▸ Int64.le_refl _
  · exact Int64.le_of_lt (Int64.lt_of_le_of_lt (hm h) hnext)

/-- Writing keeps the ids bounded by the last one.  There has to be an id left, or else the last one
would become the least. -/
theorem bounded_write {s : Store} (hs : s.Bounded) (hleft : s.lastId < Int64.maxValue)
    (w : Write) : (s.write w).Bounded := by
  have hnext := lastId_lt_nextId hleft
  have hlast : ∀ {id}, id ≤ s.lastId → id ≤ (s.write w).lastId := by
    intro id hid
    rw [lastId_write]
    exact Int64.le_of_lt (Int64.lt_of_le_of_lt hid hnext)
  have hkeyed := keyed_write hs.keyed w
  cases w with
  | issue projectId title =>
    exact ⟨hkeyed, le_of_get?_insert hs.issue hnext, fun h => hlast (hs.design h),
      fun h => hlast (hs.version h), fun h => hlast (hs.action h)⟩
  | design issue filename =>
    exact ⟨hkeyed, fun h => hlast (hs.issue h), le_of_get?_insert hs.design hnext,
      fun h => hlast (hs.version h), fun h => hlast (hs.action h)⟩
  | version issue events createdAt =>
    refine ⟨hkeyed, fun h => hlast (hs.issue h), fun h => hlast (hs.design h),
      le_of_get?_insert hs.version hnext, fun {a} h => ?_⟩
    rcases List.mem_append.1 h with h | h
    · exact hlast (hs.action h)
    · obtain ⟨e, -, rfl⟩ := List.mem_map.1 h
      exact Int64.le_refl _

end Store

/-! ### Steps and runs -/

/-- Whether a step is one of those that write. -/
def Step.isFixture : Step → Bool
  | .insertIssue .. | .insertDesign .. | .commitVersion .. => true
  | _ => false

namespace Session

/-- A step that writes finds an id that is left. -/
def FindsId (s : Session) (step : Step) : Prop :=
  (s.write? step).isSome = true → s.store.lastId < Int64.maxValue

/-- The ids suffice for steps from the start, so that none is given out twice.  Beyond the largest
id the counter would wrap around. -/
abbrev IdsSuffice (steps : List Step) : Prop := Along FindsId empty steps

/-- The ids of a session are bounded, and its tables continue those of an earlier
store. -/
structure Continues (s : Session) (first : Store) : Prop where
  bounded : s.store.Bounded
  lastId : first.lastId ≤ s.store.lastId
  tables : first.tables.Continued first.lastId s.store.tables

/-- A step keeps the ids bounded by the last one. -/
theorem bounded_step {s : Session} {step : Step} (hid : s.FindsId step)
    (hs : s.store.Bounded) : (s.step step).2.store.Bounded := by
  have hwritten : (s.written step).Bounded := by
    cases hw : s.write? step with
    | none => rw [written_of_none hw]; exact hs
    | some w => rw [written_of_some hw]; exact Store.bounded_write hs (hid (by rw [hw]; rfl)) w
  -- only the records of a store and its last id are known after a step
  have htables := s.tables_step step
  have hlast := s.lastId_step step
  refine ⟨htables ▸ hwritten.keyed, ?_, ?_, ?_, ?_⟩ <;> rw [htables, hlast]
  · exact hwritten.issue
  · exact hwritten.design
  · exact hwritten.version
  · exact hwritten.action

/-- A step adds records at the end of the tables. -/
theorem continues_step {first : Store} {s : Session} {step : Step} (hid : s.FindsId step)
    (h : s.Continues first) : (s.step step).2.Continues first := by
  have hwritten : first.lastId ≤ (s.written step).lastId
      ∧ first.tables.Continued first.lastId (s.written step).tables := by
    cases hw : s.write? step with
    | none => rw [written_of_none hw]; exact ⟨h.lastId, h.tables⟩
    | some w =>
      have hleft := hid (by rw [hw]; rfl)
      rw [written_of_some hw, Store.lastId_write]
      refine ⟨?_, h.tables.trans (Store.continued_write h.bounded hleft w) h.lastId⟩
      exact Int64.le_of_lt (Int64.lt_of_le_of_lt h.lastId (Store.lastId_lt_nextId hleft))
  rw [← lastId_step, ← tables_step] at hwritten
  exact ⟨bounded_step hid h.bounded, hwritten.1, hwritten.2⟩

theorem continues_run {s : Session} (hs : s.store.Bounded) {steps : List Step}
    (hids : Along FindsId s steps) : (s.run steps).2.Continues s.store :=
  run_induction (P := fun s' => s'.Continues s.store) (fun _ _ hid h => continues_step hid h)
    ⟨hs, Int64.le_refl _, .refl _ _⟩ hids

theorem bounded_empty : empty.store.Bounded := by
  refine ⟨keyed_after [], ?_, ?_, ?_, fun ha => absurd ha List.not_mem_nil⟩ <;> intro id r h <;>
    cases h

/-- The ids of every session are bounded by the last one given out. -/
theorem bounded_after {steps : List Step} (hids : IdsSuffice steps) :
    (after steps).store.Bounded :=
  (continues_run bounded_empty hids).bounded

/-- **Every session continues what it was at an earlier moment.** -/
theorem continues_after {before later : List Step} (hids : IdsSuffice (before ++ later)) :
    (after (before ++ later)).Continues (after before).store := by
  obtain ⟨hbefore, hlater⟩ := along_append.1 hids
  rw [after_append]
  exact continues_run (bounded_after hbefore) hlater

theorem Continues.get?_version {s : Session} {first : Store} (h : s.Continues first) {v : Version}
    (hv : first.tables.versions.get? v.id = some v) :
    s.store.tables.versions.get? v.id = some v := by
  have hmem := h.tables.versions.mem (SortedMap.mem_values_iff.2 ⟨v.id, hv⟩)
  exact h.bounded.keyed.mem_versions_iff.1 hmem

section Commits

variable {before later : List Step} {given : Given Issue} {events : List (DesignId × Event)}
  {createdAt : Instant} {v : Version}

/-- Right after its commit a version is stored under the last id given out. -/
theorem stored_at_commit
    (hcommit : ((after before).step (.commitVersion given events createdAt)).1
      = .answer (.version (some v))) :
    v.id = (after (before ++ [.commitVersion given events createdAt])).store.lastId
      ∧ (after (before ++ [.commitVersion given events createdAt])).store.tables.versions.get? v.id
        = some v := by
  rw [after_append]
  exact stored_of_commit hcommit

/-- At every moment after its commit a version is stored. -/
theorem stored_after_commit
    (hids : IdsSuffice (before ++ [.commitVersion given events createdAt] ++ later))
    (hcommit : ((after before).step (.commitVersion given events createdAt)).1
      = .answer (.version (some v))) :
    (after (before ++ [.commitVersion given events createdAt] ++ later)).store.tables.versions.get?
        v.id = some v :=
  (continues_after hids).get?_version (stored_at_commit hcommit).2

end Commits

/-! ### When the ids suffice -/

theorem isFixture_of_write? {s : Session} {step : Step} (h : (s.write? step).isSome = true) :
    step.isFixture = true := by
  cases step with
  | insertIssue projectId title => rfl
  | insertDesign issue filename => rfl
  | commitVersion issue events createdAt => rfl
  | _ => cases h

/-- The ids suffice for a run that has no more fixtures than there are ids left.  The count is what
a caller can see in advance. -/
theorem along_findsId_of_countP {s : Session} {steps : List Step}
    (h : s.store.lastId.toInt + steps.countP Step.isFixture ≤ Int64.maxValue.toInt) :
    Along FindsId s steps := by
  induction steps generalizing s with
  | nil => trivial
  | cons step rest ih =>
    have hlast := s.lastId_step step
    cases hw : s.write? step with
    | none =>
      have hcount : rest.countP Step.isFixture ≤ (step :: rest).countP Step.isFixture :=
        (List.sublist_cons_self step rest).countP_le
      rw [written_of_none hw] at hlast
      refine ⟨fun hsome => ?_, ih ?_⟩
      · rw [hw] at hsome
        cases hsome
      · rw [hlast]
        omega
    | some w =>
      have hfixture : step.isFixture = true := isFixture_of_write? (by rw [hw]; rfl)
      rw [List.countP_cons_of_pos hfixture] at h
      have hleft : s.store.lastId < Int64.maxValue := by
        rw [Int64.lt_iff_toInt_lt]
        omega
      rw [written_of_some hw, Store.lastId_write] at hlast
      refine ⟨fun _ => hleft, ih ?_⟩
      rw [hlast, Store.toInt_nextId hleft]
      omega

/-- The ids suffice for as many fixtures as there are positive ids. -/
theorem idsSuffice_of_countP {steps : List Step}
    (h : steps.countP Step.isFixture ≤ Int64.maxValue.toNatClampNeg) : IdsSuffice steps := by
  refine along_findsId_of_countP ?_
  have hstart : empty.store.lastId.toInt = 0 := rfl
  have hmax : Int64.maxValue.toInt = Int64.maxValue.toNatClampNeg := rfl
  omega

end Session

end DesignHistory
