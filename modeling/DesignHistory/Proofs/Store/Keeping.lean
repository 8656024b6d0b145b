import Mathlib.Algebra.Group.Nat.Defs
import DesignHistory.Proofs.Store.Growth

/-!
# Records that stay

A record is written under the next id.  If this id is not in use, nothing is overwritten,
and every record stays under its id as it is.  The counter of ids comes back to an id only
after all other ids, so an id that is in use is not found by as many writing steps as there
are ids.

## Main definitions

* `Tables.Unused`: an id under which there is no record.
* `Tables.Keeps`: all records of one moment are in the tables of another one.
* `Session.FindsUnused`: a step that writes finds an unused id.

## Main statements

* `Session.keeps_run`: a run that finds unused ids keeps all records.
* `Session.keeps_after`: so does every run for which the ids suffice.
* `Session.along_findsUnused_of_countP`: how many steps find unused ids.
-/

namespace DesignHistory

/-! ### Tables -/

namespace Tables

/-- There is no record under an id.  One counter serves all three tables, so the id is asked to be
unused in each. -/
structure Unused (t : Tables) (id : Int64) : Prop where
  issue : t.issues.get? id = none
  design : t.designs.get? id = none
  version : t.versions.get? id = none

/-- Every record is in the other tables, too, under the same id.  It says less than that the tables
continue each other, and is all that is needed to find something again. -/
structure Keeps (t t' : Tables) : Prop where
  issue : ∀ {id i}, t.issues.get? id = some i → t'.issues.get? id = some i
  design : ∀ {id d}, t.designs.get? id = some d → t'.designs.get? id = some d
  version : ∀ {id v}, t.versions.get? id = some v → t'.versions.get? id = some v

theorem Keeps.refl (t : Tables) : t.Keeps t := ⟨id, id, id⟩

theorem Keeps.trans {t t' t'' : Tables} (h : t.Keeps t') (h' : t'.Keeps t'') : t.Keeps t'' :=
  ⟨h'.issue ∘ h.issue, h'.design ∘ h.design, h'.version ∘ h.version⟩

end Tables

namespace Store

/-- A record under an unused key leaves the others where they are. -/
private theorem get?_insert_of_unused {α : Type} {m : SortedMap Int64 α} {k id : Int64}
    (hk : m.get? k = none) {a : α} (ha : m.get? id = some a) (new : α) :
    (m.insert k new).get? id = some a := by
  rw [SortedMap.get?_insert_of_ne, ha]
  rintro rfl
  rw [hk] at ha
  cases ha

/-- Writing under an unused id keeps all records. -/
theorem keeps_write {s : Store} (hs : s.tables.Unused s.nextId) (w : Write) :
    s.tables.Keeps (s.write w).tables := by
  cases w with
  | issue projectId title => exact ⟨fun h => get?_insert_of_unused hs.issue h _, id, id⟩
  | design issue filename => exact ⟨id, fun h => get?_insert_of_unused hs.design h _, id⟩
  | version issue events createdAt =>
    exact ⟨id, id, fun h => get?_insert_of_unused hs.version h _⟩

/-- While ids are left the next id is unused. -/
theorem unused_nextId {s : Store} (hs : s.Bounded) (hleft : s.lastId < Int64.maxValue) :
    s.tables.Unused s.nextId := by
  have habove : ∀ {α : Type} {m : SortedMap Int64 α}, (∀ {id a}, m.get? id = some a →
      id ≤ s.lastId) → m.get? s.nextId = none := by
    intro α m hm
    refine Option.eq_none_iff_forall_ne_some.2 fun a ha => ?_
    exact Int64.not_le.2 (lastId_lt_nextId hleft) (hm ha)
  exact ⟨habove hs.issue, habove hs.design, habove hs.version⟩

/-- An id is one of the first that the counter gives out. -/
def IsAmong (n : Nat) (id : Int64) : Prop := ∃ k, 0 < k ∧ k ≤ n ∧ id = Int64.ofNat k

/-- The last id is the one of a number, and the ids in use are those of numbers up to it.  The
number does not wrap around, although the id does. -/
structure Numbered (s : Store) (n : Nat) : Prop where
  lastId : s.lastId = Int64.ofNat n
  issue : ∀ {id i}, s.tables.issues.get? id = some i → IsAmong n id
  design : ∀ {id d}, s.tables.designs.get? id = some d → IsAmong n id
  version : ∀ {id v}, s.tables.versions.get? id = some v → IsAmong n id

theorem Numbered.nextId_eq {s : Store} {n : Nat} (hs : s.Numbered n) :
    s.nextId = Int64.ofNat (n + 1) := by
  rw [nextId, hs.lastId, Int64.ofNat_add]
  rfl

/-- The next id is not among those given out, unless all have been given out. -/
private theorem not_isAmong_next {n : Nat} (hn : n < 2 ^ 64) :
    ¬ IsAmong n (Int64.ofNat (n + 1)) := by
  rintro ⟨k, hpos, hle, hid⟩
  have hbits : BitVec.ofNat 64 (n + 1) = BitVec.ofNat 64 k := congrArg Int64.toBitVec hid
  have hmod : (n + 1) % 2 ^ 64 = k % 2 ^ 64 := by
    simpa only [BitVec.toNat_ofNat] using congrArg BitVec.toNat hbits
  omega

/-- The counter has not come back to an id in use before it has given out all ids. -/
theorem Numbered.unused {s : Store} {n : Nat} (hs : s.Numbered n) (hn : n < 2 ^ 64) :
    s.tables.Unused s.nextId := by
  have hnew : ∀ {α : Type} {m : SortedMap Int64 α}, (∀ {id a}, m.get? id = some a →
      IsAmong n id) → m.get? s.nextId = none := by
    intro α m hm
    refine Option.eq_none_iff_forall_ne_some.2 fun a ha => ?_
    exact not_isAmong_next hn (hs.nextId_eq ▸ hm ha)
  exact ⟨hnew hs.issue, hnew hs.design, hnew hs.version⟩

/-- Writing gives out the next number. -/
theorem Numbered.write {s : Store} {n : Nat} (hs : s.Numbered n) (w : Write) :
    (s.write w).Numbered (n + 1) := by
  have hearlier : ∀ {id}, IsAmong n id → IsAmong (n + 1) id := by
    rintro id ⟨k, hpos, hle, hid⟩
    exact ⟨k, hpos, Nat.le_succ_of_le hle, hid⟩
  have hinsert : ∀ {α : Type} {m : SortedMap Int64 α}, (∀ {id a}, m.get? id = some a →
      IsAmong n id) → ∀ {new : α} {id a}, (m.insert s.nextId new).get? id = some a →
      IsAmong (n + 1) id := by
    intro α m hm new id a h
    rw [SortedMap.get?_insert] at h
    split at h
    · rename_i hid
      exact ⟨n + 1, Nat.succ_pos n, Nat.le_refl _, hid.trans hs.nextId_eq⟩
    · exact hearlier (hm h)
  have hlast : (s.write w).lastId = Int64.ofNat (n + 1) := by rw [lastId_write, hs.nextId_eq]
  cases w with
  | issue projectId title =>
    exact ⟨hlast, hinsert hs.issue, fun h => hearlier (hs.design h),
      fun h => hearlier (hs.version h)⟩
  | design issue filename =>
    exact ⟨hlast, fun h => hearlier (hs.issue h), hinsert hs.design,
      fun h => hearlier (hs.version h)⟩
  | version issue events createdAt =>
    exact ⟨hlast, fun h => hearlier (hs.issue h), fun h => hearlier (hs.design h),
      hinsert hs.version⟩

end Store

/-! ### Steps and runs -/

namespace Session

/-- A step that writes finds an unused id. -/
def FindsUnused (s : Session) (step : Step) : Prop :=
  (s.write? step).isSome = true → s.store.tables.Unused s.store.nextId

theorem keeps_step {s : Session} {step : Step} (h : s.FindsUnused step) :
    s.store.tables.Keeps (s.step step).2.store.tables := by
  rw [tables_step]
  cases hw : s.write? step with
  | none => rw [written_of_none hw]; exact .refl _
  | some w => rw [written_of_some hw]; exact Store.keeps_write (h (by rw [hw]; rfl)) w

/-- A run that finds unused ids keeps all records. -/
theorem keeps_run {s : Session} {steps : List Step} (h : Along FindsUnused s steps) :
    s.store.tables.Keeps (s.run steps).2.store.tables :=
  run_induction (P := fun s' => s.store.tables.Keeps s'.store.tables)
    (fun _ _ hstep hs => hs.trans (keeps_step hstep)) (.refl _) h

theorem along_findsUnused_of_findsId {s : Session} (hs : s.store.Bounded) {steps : List Step}
    (h : Along FindsId s steps) : Along FindsUnused s steps := by
  induction steps generalizing s with
  | nil => trivial
  | cons step rest ih =>
    exact ⟨fun hw => Store.unused_nextId hs (h.1 hw), ih (bounded_step h.1 hs) h.2⟩

/-- **What is stored at some moment is stored at every later one.** -/
theorem keeps_after {before later : List Step} (hids : IdsSuffice (before ++ later)) :
    (after before).store.tables.Keeps (after (before ++ later)).store.tables := by
  obtain ⟨hbefore, hlater⟩ := along_append.1 hids
  rw [after_append]
  exact keeps_run (along_findsUnused_of_findsId (bounded_after hbefore) hlater)

/-- A step gives out the next number if it is a fixture, or none. -/
theorem numbered_step {s : Session} {n : Nat} (hs : s.store.Numbered n) (step : Step) :
    ∃ m ≤ n + [step].countP Step.isFixture, (s.step step).2.store.Numbered m := by
  have hkept : ∀ {m}, (s.written step).Numbered m → (s.step step).2.store.Numbered m := by
    intro m h
    have htables := s.tables_step step
    exact ⟨(s.lastId_step step).trans h.lastId, htables ▸ h.issue, htables ▸ h.design,
      htables ▸ h.version⟩
  cases hw : s.write? step with
  | none => exact ⟨n, Nat.le_add_right n _, hkept (written_of_none hw ▸ hs)⟩
  | some w =>
    refine ⟨n + 1, Nat.le_of_eq ?_, hkept (written_of_some hw ▸ hs.write w)⟩
    rw [List.countP_singleton, if_pos (isFixture_of_write? (by rw [hw]; rfl))]

/-- A run finds unused ids that does not write more often than there are ids. -/
theorem along_findsUnused_of_numbered {s : Session} {n : Nat} (hs : s.store.Numbered n)
    {steps : List Step} (h : n + steps.countP Step.isFixture ≤ 2 ^ 64) :
    Along FindsUnused s steps := by
  induction steps generalizing s n with
  | nil => trivial
  | cons step rest ih =>
    rw [← List.singleton_append, List.countP_append] at h
    obtain ⟨m, hm, hnumbered⟩ := numbered_step hs step
    refine ⟨fun hw => hs.unused ?_, ih hnumbered (by omega)⟩
    rw [List.countP_singleton, if_pos (isFixture_of_write? hw)] at h
    omega

/-- Every run from the start finds unused ids that has no more fixtures than there are
ids. -/
theorem along_findsUnused_of_countP {before later : List Step}
    (h : (before ++ later).countP Step.isFixture ≤ 2 ^ 64) :
    Along FindsUnused (after before) later := by
  have hstart : empty.store.Numbered 0 := by
    refine ⟨rfl, ?_, ?_, ?_⟩ <;> intro id r hr <;> cases hr
  refine (along_append.1 (along_findsUnused_of_numbered hstart ?_)).2
  rw [Nat.zero_add]
  exact h

end Session

end DesignHistory
