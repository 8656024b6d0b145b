import Mathlib.Data.List.Perm.Basic
import DesignHistory.Proofs.Selection.Records

/-!
# The order of selected records

The records of a selection are in the order of their pins, each once.  So it does not
matter how the tables are listed from which a selection is made, if the records are put
in this order afterwards.

## Main statements

* `Tables.pairwise_select`: selected records are in strictly increasing order.
* `Tables.sort_select`: records selected from tables in any order, sorted by version and
  then by design.
-/

namespace DesignHistory

open KeyOrder

/-! ### Rows of a table -/

/-- The values of a map that holds values under their own keys are in the order of
these. -/
private theorem pairwise_values {α : Type} {idOf : α → Int64} {m : SortedMap Int64 α}
    (hm : ∀ {id a}, m.get? id = some a → idOf a = id) :
    m.values.Pairwise fun a b => before (idOf a) (idOf b) = true := by
  have hkeys := m.pairwise_keys
  rw [SortedMap.keys, List.pairwise_map] at hkeys
  rw [SortedMap.values, List.pairwise_map]
  refine hkeys.imp_of_mem fun {p q} hp hq hpq => ?_
  rw [hm (SortedMap.mem_entries_iff.1 hp), hm (SortedMap.mem_entries_iff.1 hq)]
  exact hpq

namespace Tables

variable {t : Tables}

theorem Keyed.pairwise_designs (ht : t.Keyed) :
    t.designs.values.Pairwise fun d e => before d.id e.id = true :=
  pairwise_values ht.design

theorem Keyed.pairwise_versions (ht : t.Keyed) :
    t.versions.values.Pairwise fun v w => before v.id w.id = true :=
  pairwise_values ht.version

theorem Keyed.visibleDesigns_eq_filter (ht : t.Keyed) (v : Version) (filter : DesignFilter) :
    t.visibleDesigns v filter = t.designs.values.filter fun d =>
      d.issueId == v.issueId && (Lifecycle.visibleAt t.actions v.id).contains d.id
        && filter.accepts d.id d.filename :=
  sortOn_eq_of_perm (List.Perm.refl _) (ht.pairwise_designs.filter _)

/-! ### Selected records -/

/-- The order of records that have the name of their parts, part by part. -/
theorem before_pin_iff {p q : PinnedDesign} (hp : p.pin = ⟨p.design.id, p.version.id⟩)
    (hq : q.pin = ⟨q.design.id, q.version.id⟩) :
    before p.pin q.pin = true ↔
      before p.design.id q.design.id = true
        ∨ before q.design.id p.design.id = false ∧ before p.version.id q.version.id = true := by
  rw [hp, hq]
  show (before p.design.id q.design.id
    || (!before q.design.id p.design.id && before p.version.id q.version.id)) = true ↔ _
  simp

/-- Selected records are in strictly increasing order. -/
theorem pairwise_select (ht : t.Keyed) (s : Selection) :
    (t.select s).Pairwise fun p q => before p.pin q.pin = true := by
  unfold select Selection.select
  rw [List.pairwise_flatMap]
  constructor
  · intro d _
    rw [List.pairwise_map]
    refine (ht.pairwise_versions.filter _).imp fun {v w} hvw => ?_
    exact (before_pin_iff rfl rfl).2 (.inr ⟨irrefl d.id, hvw⟩)
  · refine ht.pairwise_designs.imp fun {d e} hde => ?_
    intro p hp q hq
    obtain ⟨v, -, rfl⟩ := List.mem_map.1 hp
    obtain ⟨w, -, rfl⟩ := List.mem_map.1 hq
    exact (before_pin_iff rfl rfl).2 (.inl hde)

/-- From tables in another order the same records are selected, in another order. -/
theorem select_perm (s : Selection) {ds : List Design} (hds : ds.Perm t.designs.values)
    {vs : List Version} (hvs : vs.Perm t.versions.values) :
    (s.select ds vs).Perm (t.select s) := by
  unfold select Selection.select
  refine (hds.flatMap_right _).trans (List.Perm.flatMap_left _ fun d _ => ?_)
  exact (hvs.filter _).map _

/-- Records selected from tables in any order are in the order of their pins after they were sorted
by version and then by design.  It is how a database sorts, whose listing is not known. -/
theorem sort_select (ht : t.Keyed) (s : Selection) {ds : List Design}
    (hds : ds.Perm t.designs.values) {vs : List Version} (hvs : vs.Perm t.versions.values) :
    sortOn (fun p => p.design.id) (sortOn (fun p => p.version.id) (s.select ds vs))
      = t.select s := by
  have hperm : (sortOn (fun p => p.design.id) (sortOn (fun p => p.version.id)
      (s.select ds vs))).Perm (t.select s) :=
    (sortOn_perm _ _).trans ((sortOn_perm _ _).trans (select_perm s hds hvs))
  have hanti : ∀ p q, p ∈ sortOn (fun p => p.design.id) (sortOn (fun p => p.version.id)
      (s.select ds vs)) → q ∈ t.select s → before q.pin p.pin = false →
      before p.pin q.pin = false → p = q := by
    intro p q hp hq hpq hqp
    exact eq_of_mem_select ht (hperm.mem_iff.1 hp) hq (connected hqp hpq)
  have hpin : ∀ p ∈ sortOn (fun p => p.design.id) (sortOn (fun p => p.version.id)
      (s.select ds vs)), p.pin = ⟨p.design.id, p.version.id⟩ := fun p hp =>
    (Selection.consistent_of_mem_select (hperm.mem_iff.1 hp)).pin
  have hsorted : (sortOn (fun p => p.design.id) (sortOn (fun p => p.version.id)
      (s.select ds vs))).Pairwise fun p q => before q.pin p.pin = false := by
    have hdesign := pairwise_sortOn (fun p : PinnedDesign => p.design.id)
      (sortOn (fun p => p.version.id) (s.select ds vs))
    -- records of one design are still in the order of their versions
    have hversion := pairwise_ties_sortOn (fun p : PinnedDesign => p.design.id)
      (pairwise_sortOn (fun p : PinnedDesign => p.version.id) (s.select ds vs))
    refine (hdesign.and hversion).imp_of_mem fun {p q} hp hq ⟨hle, hties⟩ => ?_
    rw [← Bool.not_eq_true, before_pin_iff (hpin q hq) (hpin p hp)]
    rintro (hlt | ⟨htie, hlt⟩)
    · rw [hle] at hlt
      cases hlt
    · rw [hties htie] at hlt
      cases hlt
  have hselected : (t.select s).Pairwise fun p q => before q.pin p.pin = false :=
    (pairwise_select ht s).imp fun {p q} hpq => KeyOrder.asymm hpq
  exact List.Perm.eq_of_pairwise hanti hsorted hselected hperm

end Tables

end DesignHistory
