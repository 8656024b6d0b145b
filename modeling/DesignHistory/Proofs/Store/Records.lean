import Mathlib.Algebra.Group.Nat.Defs
import Mathlib.Data.List.Nodup
import DesignHistory.Proofs.Store.Growth

/-!
# What a store holds

Issues, designs and versions draw their ids from one counter, and each kind has a table of its
own.  Written down in the order of creation, all records together say what is in the store: their
ids count up from one, each table lists the records of its kind, the actions are those that the
versions came with, and the issues of each project are numbered from one.

## Main definitions

* `Record`: an issue, a design, or a version with the events it came with.
* `Store.record`: the record that is created when something is written.
* `Tables.ids`: the ids in use, one table after the other.
* `Store.Represents`: a store holds some records, listed in the order of creation.

## Main statements

* `Store.represents_write`: what is written is one record more.
* `Store.Represents.perm_ids`, `Store.Represents.pairwise_ids`: records are told apart by their
  ids, whatever their tables.
* `Store.Represents.filter_actions`: the actions of a version are those that it came with.
* `Store.Represents.eq_of_iid_eq`: issues of a project are told apart by their numbers.
-/

namespace DesignHistory

/-! ### Records -/

/-- Something that is created in a store.  A version is listed with the events it was committed
with, since its actions are stored along with it. -/
inductive Record where
  | issue (value : Issue)
  | design (value : Design)
  | version (value : Version) (events : List (DesignId × Event))
deriving DecidableEq

namespace Record

/-- The id that a record has in its table. -/
def id : Record → Int64
  | .issue i => i.id
  | .design d => d.id
  | .version v _ => v.id

/-- The issue, if it is one. -/
def issue? : Record → Option Issue
  | .issue i => some i
  | _ => none

/-- The design, if it is one. -/
def design? : Record → Option Design
  | .design d => some d
  | _ => none

/-- The version, if it is one. -/
def version? : Record → Option Version
  | .version v _ => some v
  | _ => none

/-- The actions that come with a record. -/
def actions : Record → List Action
  | .version v events => events.map fun e => ⟨e.1, v.id, e.2⟩
  | _ => []

variable {r : Record} {a : Action}

/-- Only versions come with actions, and these have the version's id. -/
theorem exists_of_mem_actions (h : a ∈ r.actions) :
    ∃ v events, r = .version v events ∧ v.id = a.versionId := by
  cases r with
  | version v events =>
    obtain ⟨e, -, rfl⟩ := List.mem_map.1 h
    exact ⟨v, events, rfl, rfl⟩
  | issue i => cases h
  | design d => cases h

/-- The records of the three kinds, taken one kind after the other, have the ids of all. -/
theorem perm_ids (records : List Record) :
    ((records.filterMap issue?).map Issue.id ++ (records.filterMap design?).map Design.id
      ++ (records.filterMap version?).map Version.id).Perm (records.map id) := by
  induction records with
  | nil => exact .refl _
  | cons r rest ih =>
    cases r with
    | issue i => exact ih.cons _
    | design d =>
      rw [List.append_assoc] at ih ⊢
      exact List.perm_middle.trans (ih.cons _)
    | version v events => exact List.perm_middle.trans (ih.cons _)

end Record

/-! ### Counting up -/

/-- The ids that are given out first, in their order. -/
def firstIds (n : Nat) : List Int64 := (List.range' 1 n).map Int64.ofNat

theorem firstIds_succ (n : Nat) : firstIds (n + 1) = firstIds n ++ [Int64.ofNat n + 1] := by
  rw [firstIds, List.range'_concat, List.map_append, Nat.one_mul, Nat.add_comm, List.map_singleton,
    Int64.ofNat_add]
  rfl

private theorem toInt_ofNat {n k : Nat} (hn : n < 2 ^ 63) (hk : k ≤ n) :
    (Int64.ofNat k).toInt = k :=
  Int64.toInt_ofNat_of_lt (Nat.lt_of_le_of_lt hk hn)

theorem pairwise_firstIds {n : Nat} (hn : n < 2 ^ 63) : (firstIds n).Pairwise (· < ·) := by
  refine List.pairwise_map.2 (List.Pairwise.imp_of_mem (fun hj hk hlt => ?_)
    (List.pairwise_lt_range' 1))
  obtain ⟨-, hj⟩ := List.mem_range'_1.1 hj
  obtain ⟨-, hk⟩ := List.mem_range'_1.1 hk
  rw [Int64.lt_iff_toInt_lt, toInt_ofNat hn (by omega), toInt_ofNat hn (by omega)]
  omega

/-- The first ids lie between one and the last of them. -/
theorem bounds_of_mem_firstIds {n : Nat} (hn : n < 2 ^ 63) {id : Int64} (h : id ∈ firstIds n) :
    1 ≤ id ∧ id ≤ Int64.ofNat n := by
  obtain ⟨k, hk, rfl⟩ := List.mem_map.1 h
  obtain ⟨hlow, hhigh⟩ := List.mem_range'_1.1 hk
  rw [Int64.le_iff_toInt_le, Int64.le_iff_toInt_le, toInt_ofNat hn (by omega),
    toInt_ofNat hn (Nat.le_refl n), Int64.toInt_one]
  omega

/-! ### Tables -/

theorem filterMap_concat {α β : Type} (f : α → Option β) (l : List α) (a : α) :
    (l ++ [a]).filterMap f = l.filterMap f ++ (f a).toList := by
  rw [List.filterMap_append, List.filterMap_cons, List.filterMap_nil]
  cases f a <;> rfl

/-- The keys of a table are the ids of its records, if these are under their own ids. -/
theorem SortedMap.keys_eq_map_values {α : Type} {idOf : α → Int64} {m : SortedMap Int64 α}
    (hm : ∀ {id a}, m.get? id = some a → idOf a = id) : m.keys = m.values.map idOf := by
  rw [keys, values, List.map_map]
  exact List.map_congr_left fun p hp => (hm (mem_entries_iff.1 hp)).symm

/-- The ids in use, one table after the other. -/
def Tables.ids (t : Tables) : List Int64 := t.issues.keys ++ t.designs.keys ++ t.versions.keys

namespace Store

/-- The record that is created when something is written. -/
def record (s : Store) : Write → Record
  | .issue projectId title => .issue (s.insertIssue projectId title).1
  | .design issue filename => .design (s.insertDesign issue filename).1
  | .version issue events createdAt => .version (s.commitVersion issue events createdAt).1 events

/-- A store holds some records, listed in the order of creation.  The list determines all that the
store has on record. -/
structure Represents (s : Store) (records : List Record) : Prop where
  lastId : s.lastId = Int64.ofNat records.length
  ids : records.map Record.id = firstIds records.length
  issues : s.tables.issues.values = records.filterMap Record.issue?
  designs : s.tables.designs.values = records.filterMap Record.design?
  versions : s.tables.versions.values = records.filterMap Record.version?
  actions : s.tables.actions = records.flatMap Record.actions
  /-- The issues of a project are numbered from one, in the order of creation. -/
  iids : ∀ projectId, (s.issuesOfProject projectId).map Issue.iid
    = firstIds (s.issuesOfProject projectId).length

variable {s s' : Store} {records : List Record}

theorem represents_empty : empty.Represents [] :=
  ⟨rfl, rfl, rfl, rfl, rfl, rfl, fun _ => rfl⟩

/-- What a store holds does not depend on what was asked. -/
theorem Represents.congr (h : s.Represents records) (htables : s'.tables = s.tables)
    (hlast : s'.lastId = s.lastId) : s'.Represents records := by
  have hissues : ∀ projectId, s'.issuesOfProject projectId = s.issuesOfProject projectId := by
    intro projectId
    rw [issuesOfProject, htables, issuesOfProject]
  refine ⟨hlast.trans h.lastId, h.ids, ?_, ?_, ?_, ?_, fun projectId => ?_⟩
  · rw [htables, h.issues]
  · rw [htables, h.designs]
  · rw [htables, h.versions]
  · rw [htables, h.actions]
  · rw [hissues, h.iids]

/-! ### Writing -/

theorem id_record (s : Store) (w : Write) : (s.record w).id = s.nextId := by
  cases w <;> rfl

/-- The issues of a project when an issue is written. -/
theorem issuesOfProject_write (hs : s.Bounded) (hleft : s.lastId < Int64.maxValue)
    (projectId projectId' : ProjectId) (title : String) :
    (s.write (.issue projectId title)).issuesOfProject projectId'
      = s.issuesOfProject projectId'
        ++ if projectId = projectId' then [(s.insertIssue projectId title).1] else [] := by
  have hvalues : (s.write (.issue projectId title)).tables.issues.values
      = s.tables.issues.values ++ [(s.insertIssue projectId title).1] :=
    values_insert_of_bounded hs.issue (lastId_lt_nextId hleft) _
  rw [issuesOfProject, hvalues, List.filter_append, issuesOfProject, List.filter_cons,
    List.filter_nil]
  simp only [beq_iff_eq, insertIssue]

/-- An issue is numbered after those of its project. -/
theorem iids_write (hs : s.Bounded) (hleft : s.lastId < Int64.maxValue)
    (h : ∀ projectId, (s.issuesOfProject projectId).map Issue.iid
      = firstIds (s.issuesOfProject projectId).length) (w : Write) (projectId : ProjectId) :
    ((s.write w).issuesOfProject projectId).map Issue.iid
      = firstIds ((s.write w).issuesOfProject projectId).length := by
  cases w with
  | issue projectId' title =>
    rw [issuesOfProject_write hs hleft]
    split
    · rename_i hproject
      subst hproject
      rw [List.map_append, List.length_append, List.length_singleton, firstIds_succ, h]
      rfl
    · rw [List.append_nil, h]
  | design issue filename => exact h projectId
  | version issue events createdAt => exact h projectId

/-- A table gets the record that is written, if it is of its kind.  The other two tables stay as
they are. -/
theorem tables_write (hs : s.Bounded) (hleft : s.lastId < Int64.maxValue) (w : Write) :
    (s.write w).tables.issues.values = s.tables.issues.values ++ (s.record w).issue?.toList
      ∧ (s.write w).tables.designs.values = s.tables.designs.values ++ (s.record w).design?.toList
      ∧ (s.write w).tables.versions.values
        = s.tables.versions.values ++ (s.record w).version?.toList
      ∧ (s.write w).tables.actions = s.tables.actions ++ (s.record w).actions := by
  have hnext := lastId_lt_nextId hleft
  have hsame : ∀ {α : Type} (l : List α), l = l ++ [] := fun l => (List.append_nil l).symm
  cases w with
  | issue projectId title =>
    exact ⟨values_insert_of_bounded hs.issue hnext _, hsame _, hsame _, hsame _⟩
  | design issue filename =>
    exact ⟨hsame _, values_insert_of_bounded hs.design hnext _, hsame _, hsame _⟩
  | version issue events createdAt =>
    exact ⟨hsame _, hsame _, values_insert_of_bounded hs.version hnext _, rfl⟩

/-- What is written is one record more. -/
theorem represents_write (hs : s.Bounded) (hleft : s.lastId < Int64.maxValue)
    (h : s.Represents records) (w : Write) :
    (s.write w).Represents (records ++ [s.record w]) := by
  obtain ⟨hissues, hdesigns, hversions, hactions⟩ := tables_write hs hleft w
  have hlength : (records ++ [s.record w]).length = records.length + 1 := List.length_append
  refine ⟨?_, ?_, ?_, ?_, ?_, ?_, iids_write hs hleft h.iids w⟩
  · rw [lastId_write, nextId, h.lastId, hlength, Int64.ofNat_add]
    rfl
  · rw [List.map_append, h.ids, List.map_singleton, id_record, nextId, h.lastId, hlength,
      firstIds_succ]
  · rw [hissues, h.issues, filterMap_concat]
  · rw [hdesigns, h.designs, filterMap_concat]
  · rw [hversions, h.versions, filterMap_concat]
  · rw [hactions, h.actions, List.flatMap_append, List.flatMap_singleton]

/-! ### Telling records apart -/

namespace Represents

/-- Every record has an id of its own, whatever its table. -/
theorem perm_ids (h : s.Represents records) (ht : s.tables.Keyed) :
    s.tables.ids.Perm (firstIds records.length) := by
  rw [Tables.ids, SortedMap.keys_eq_map_values ht.issue, SortedMap.keys_eq_map_values ht.design,
    SortedMap.keys_eq_map_values ht.version, h.issues, h.designs, h.versions, ← h.ids]
  exact Record.perm_ids records

/-- The ids increase in the order of creation. -/
theorem pairwise_ids (h : s.Represents records) (hn : records.length < 2 ^ 63) :
    (records.map Record.id).Pairwise (· < ·) := by
  rw [h.ids]
  exact pairwise_firstIds hn

/-- Every action was recorded by a stored version. -/
theorem exists_version (h : s.Represents records) (ht : s.tables.Keyed) {a : Action}
    (ha : a ∈ s.tables.actions) : ∃ v, s.tables.versions.get? a.versionId = some v := by
  rw [h.actions] at ha
  obtain ⟨r, hr, ha⟩ := List.mem_flatMap.1 ha
  obtain ⟨v, events, rfl, hid⟩ := Record.exists_of_mem_actions ha
  have hmem : v ∈ s.tables.versions.values := by
    rw [h.versions]
    exact List.mem_filterMap.2 ⟨_, hr, rfl⟩
  exact ⟨v, hid ▸ ht.mem_versions_iff.1 hmem⟩

/-- The actions of a version are those that it came with.  Ids are different, so that no other
record came with actions of this version. -/
theorem filter_actions (h : s.Represents records) (hn : records.length < 2 ^ 63) {v : Version}
    {events : List (DesignId × Event)} (hv : .version v events ∈ records) :
    s.tables.actions.filter (fun a => a.versionId == v.id)
      = events.map fun e => ⟨e.1, v.id, e.2⟩ := by
  have hids := h.pairwise_ids hn
  obtain ⟨before, after, rfl⟩ := List.append_of_mem hv
  -- no other record has this id, so no other one came with actions of this version
  have hnone : ∀ rs : List Record, (∀ r ∈ rs, r.id ≠ v.id) →
      (rs.flatMap Record.actions).filter (fun a => a.versionId == v.id) = [] := by
    intro rs hrs
    refine List.filter_eq_nil_iff.2 fun a ha => ?_
    obtain ⟨r, hr, ha⟩ := List.mem_flatMap.1 ha
    obtain ⟨w, named, rfl, hid⟩ := Record.exists_of_mem_actions ha
    rw [beq_iff_eq, ← hid]
    exact hrs _ hr
  rw [List.map_append, List.map_cons] at hids
  obtain ⟨-, hrest, hbefore⟩ := List.pairwise_append.1 hids
  have hafter := (List.pairwise_cons.1 hrest).1
  rw [h.actions, List.flatMap_append, List.flatMap_cons, List.filter_append, List.filter_append,
    hnone before fun r hr => Int64.ne_of_lt
      (hbefore _ (List.mem_map_of_mem hr) _ List.mem_cons_self),
    hnone after fun r hr => (Int64.ne_of_lt (hafter _ (List.mem_map_of_mem hr))).symm,
    List.nil_append, List.append_nil, List.filter_eq_self.2]
  · rfl
  · intro a ha
    obtain ⟨w, named, hw, hid⟩ := Record.exists_of_mem_actions ha
    cases hw
    exact beq_iff_eq.2 hid.symm

/-- A project and a number name at most one issue. -/
theorem eq_of_iid_eq (h : s.Represents records) (hn : records.length < 2 ^ 63) {i j : Issue}
    (hi : i ∈ s.tables.issues.values) (hj : j ∈ s.tables.issues.values)
    (hproject : i.projectId = j.projectId) (hiid : i.iid = j.iid) : i = j := by
  have hlength : (s.issuesOfProject i.projectId).length < 2 ^ 63 := by
    refine Nat.lt_of_le_of_lt (Nat.le_trans (List.length_filter_le _ _) ?_) hn
    rw [h.issues]
    exact List.length_filterMap_le _ _
  have hnodup : ((s.issuesOfProject i.projectId).map Issue.iid).Nodup := by
    rw [h.iids]
    exact (pairwise_firstIds hlength).imp Int64.ne_of_lt
  have hof : ∀ k ∈ s.tables.issues.values, k.projectId = i.projectId →
      k ∈ s.issuesOfProject i.projectId := fun k hk hproject =>
    List.mem_filter.2 ⟨hk, beq_iff_eq.2 hproject⟩
  exact List.inj_on_of_nodup_map hnodup (hof i hi rfl) (hof j hj hproject.symm) hiid

end Represents

end Store

end DesignHistory
