import DesignHistory.Proofs.Lifecycle.Stages
import DesignHistory.Proofs.Selection.Order
import DesignHistory.Proofs.Store.Events
import DesignHistory.Proofs.Store.Issues

/-!
# From one version to the next

The stage of a design is found each time from all actions of all issues up to a version.  If
versions name only designs of their own issue, then whatever happened to a design was recorded
by the versions of its issue, so what lies between two versions that follow each other is what
the second one recorded itself.  The stages change by that, and the designs that come into
sight or go out of sight are among those that the version changed.

## Main definitions

* `Tables.ActsWithinIssues`: every action is on a design of the issue of its version.
* `Store.NamesOwn`: what is written names only designs of its own issue.

## Main statements

* `Store.actsWithinIssues_write`: writing that names only designs of its own issue.
* `Tables.stageAt_of_versionsOfIssue`: the stage of a design from one version to the next.
* `Tables.mem_changedDesigns_of_sight`, `Tables.mem_visibleDesigns_of_kept`: what comes into
  sight or goes out of sight.
-/

namespace DesignHistory

open Lifecycle

namespace Tables

variable {t t' : Tables} {issueId : IssueId} {d : Design} {v p : Version}
  {newer older : List Version}

/-! ### Actions within issues -/

/-- Every action was recorded by a stored version, on a design of the issue of the version.  So an
action up to a version that is not the version's own belongs to an earlier version of the same
issue. -/
def ActsWithinIssues (t : Tables) : Prop :=
  ∀ a ∈ t.actions, ∃ v, t.versions.get? a.versionId = some v
    ∧ (t.findDesign v.issueId a.designId).isSome = true

/-- A design that is found among some records is found among more of them. -/
theorem Keeps.findDesign (h : t.Keeps t') {id : DesignId}
    (hid : (t.findDesign issueId id).isSome = true) :
    (t'.findDesign issueId id).isSome = true := by
  obtain ⟨d, hd⟩ := Option.isSome_iff_exists.1 hid
  obtain ⟨hstored, hissue⟩ := Option.filter_eq_some_iff.1 hd
  exact Option.isSome_iff_exists.2 ⟨d, Option.filter_eq_some_iff.2 ⟨h.design hstored, hissue⟩⟩

/-- What happened to a design of an issue was recorded by a version of the issue. -/
theorem exists_version_of_action (ht : t.Keyed) (hacts : t.ActsWithinIssues)
    (hd : d ∈ t.designsOfIssue issueId) {a : Action} (ha : a ∈ t.actions)
    (hon : a.designId = d.id) : ∃ v ∈ t.versionsOfIssue issueId, v.id = a.versionId := by
  obtain ⟨hdesign, rfl⟩ := mem_designsOfIssue.1 hd
  obtain ⟨v, hv, hown⟩ := hacts a ha
  obtain ⟨e, he⟩ := Option.isSome_iff_exists.1 hown
  obtain ⟨hstored, hissue⟩ := Option.filter_eq_some_iff.1 he
  rw [hon, ht.mem_designs_iff.1 hdesign] at hstored
  obtain rfl := Option.some.inj hstored
  refine ⟨v, mem_versionsOfIssue.2 ⟨SortedMap.mem_values_iff.2 ⟨_, hv⟩, ?_⟩, ht.version hv⟩
  exact (beq_iff_eq.1 hissue).symm

/-! ### The versions of an issue -/

theorem Keyed.pairwise_versionsOfIssue (ht : t.Keyed) (issueId : IssueId) :
    (t.versionsOfIssue issueId).Pairwise fun v w => w.id < v.id := by
  refine (List.pairwise_reverse.2 ?_).filter _
  exact ht.pairwise_versions.imp fun h => of_decide_eq_true h

/-- In a list with decreasing ids, what is not after an element is the element itself, or is
not after the one that follows it. -/
theorem id_le_iff_of_pairwise {vs : List Version} (hvs : vs.Pairwise fun v w => w.id < v.id)
    (hsplit : vs = newer ++ v :: older) {w : Version} (hw : w ∈ vs) :
    w.id ≤ v.id ↔ w.id = v.id ∨ ∃ p ∈ older.head?, w.id ≤ p.id := by
  subst hsplit
  obtain ⟨-, hrest, hnewer⟩ := List.pairwise_append.1 hvs
  obtain ⟨holder, hpairs⟩ := List.pairwise_cons.1 hrest
  constructor
  · intro hle
    rcases List.mem_append.1 hw with hw | hw
    · exact absurd (hnewer w hw v List.mem_cons_self) (Int64.not_lt.2 hle)
    rcases List.mem_cons.1 hw with rfl | hw
    · exact .inl rfl
    cases older with
    | nil => cases hw
    | cons p rest =>
      refine .inr ⟨p, rfl, ?_⟩
      rcases List.mem_cons.1 hw with rfl | hw
      · exact Int64.le_refl _
      · exact Int64.le_of_lt ((List.pairwise_cons.1 hpairs).1 w hw)
  · rintro (heq | ⟨p, hp, hle⟩)
    · exact heq ▸ Int64.le_refl _
    · exact Int64.le_trans hle (Int64.le_of_lt (holder p (List.mem_of_mem_head? hp)))

/-- **As of a version, the stage of a design of its issue is what the version's own events on the
design make of the stage as of the version before.** -/
theorem stageAt_of_versionsOfIssue (ht : t.Keyed) (hacts : t.ActsWithinIssues)
    (hvs : t.versionsOfIssue issueId = newer ++ v :: older) (hd : d ∈ t.designsOfIssue issueId) :
    stageAt t.actions v.id d.id
      = (t.eventsOn v.id d.id).foldl apply (stageAfter t.actions older d.id) := by
  refine stageAt_eq_foldl_stageAfter fun a ha hon => ?_
  obtain ⟨w, hw, hid⟩ := exists_version_of_action ht hacts hd ha hon
  rw [← hid]
  exact id_le_iff_of_pairwise (ht.pairwise_versionsOfIssue issueId) hvs hw

/-! ### What is in sight -/

/-- The designs in sight as of a version are those of its issue that are visible and pass the
filter. -/
theorem mem_visibleDesigns_iff {filter : DesignFilter} :
    d ∈ t.visibleDesigns v filter ↔ d ∈ t.designsOfIssue v.issueId
      ∧ stageAt t.actions v.id d.id = .visible ∧ filter.accepts d.id d.filename = true := by
  rw [visibleDesigns, snapshot, (sortOn_perm _ _).mem_iff, List.mem_filter, mem_designsOfIssue,
    Bool.and_eq_true, Bool.and_eq_true, beq_iff_eq, List.contains_iff_mem,
    mem_visibleAt_iff_stageAt, and_assoc, and_assoc]

/-- The designs that a version changed are selected among those of its issue by anything that
holds for the designs for which it recorded some event. -/
theorem changedDesigns_eq_filter_of_iff {p : Design → Bool}
    (hp : ∀ d, p d = true ↔ t.eventsOn v.id d.id ≠ []) :
    t.changedDesigns v = (t.designsOfIssue v.issueId).filter p := by
  refine List.filter_congr fun d _ => ?_
  rw [Bool.eq_iff_iff, hp, eventsOn_ne_nil_iff, List.any_eq_true]
  simp only [Bool.and_eq_true, beq_iff_eq]

/-- The designs that a version changed are those of its issue for which it recorded some
event. -/
theorem mem_changedDesigns_iff :
    d ∈ t.changedDesigns v ↔ d ∈ t.designsOfIssue v.issueId ∧ t.eventsOn v.id d.id ≠ [] := by
  rw [changedDesigns_eq_filter_of_iff fun d => decide_eq_true_iff, List.mem_filter,
    decide_eq_true_iff]

theorem Keyed.pairwise_changedDesigns (ht : t.Keyed) (v : Version) :
    (t.changedDesigns v).Pairwise fun d e => d.id < e.id :=
  ((ht.pairwise_designs.imp fun h => of_decide_eq_true h).filter _).filter _

section Consecutive

variable (ht : t.Keyed) (hacts : t.ActsWithinIssues)
  (hvs : t.versionsOfIssue issueId = newer ++ v :: p :: older)

include hvs in
theorem issueId_of_versionsOfIssue : v.issueId = issueId ∧ p.issueId = issueId := by
  have hof : ∀ w ∈ newer ++ v :: p :: older, w.issueId = issueId := fun w hw =>
    (mem_versionsOfIssue.1 (hvs ▸ hw)).2
  exact ⟨hof v (by simp), hof p (by simp)⟩

include ht hacts hvs

/-- A design that is in sight as of one of two versions that follow each other, and not as of
the other one, was changed by the second one. -/
theorem mem_changedDesigns_of_sight {filter : DesignFilter}
    (h : ¬(d ∈ t.visibleDesigns p filter ↔ d ∈ t.visibleDesigns v filter)) :
    d ∈ t.changedDesigns v := by
  obtain ⟨hv, hp⟩ := issueId_of_versionsOfIssue hvs
  rw [mem_changedDesigns_iff]
  -- without an event of the version the stage is the one before
  by_contra hnot
  refine h ?_
  rw [mem_visibleDesigns_iff, mem_visibleDesigns_iff, hv, hp]
  refine and_congr_right fun hd => and_congr_left fun _ => ?_
  have hnone : t.eventsOn v.id d.id = [] :=
    Classical.not_not.1 fun hsome => hnot ⟨hv.symm ▸ hd, hsome⟩
  rw [stageAt_of_versionsOfIssue ht hacts hvs hd, hnone]
  rfl

/-- A design in sight as of a version stays in sight as of the next one, if that does not delete
it. -/
theorem mem_visibleDesigns_of_kept {filter : DesignFilter} (hd : d ∈ t.visibleDesigns p filter)
    (hkept : .deletion ∉ t.eventsOn v.id d.id) : d ∈ t.visibleDesigns v filter := by
  obtain ⟨hv, hp⟩ := issueId_of_versionsOfIssue hvs
  rw [mem_visibleDesigns_iff, hp] at hd
  obtain ⟨hd, hstage, haccepts⟩ := hd
  refine mem_visibleDesigns_iff.2 ⟨hv.symm ▸ hd, ?_, haccepts⟩
  rw [stageAt_of_versionsOfIssue ht hacts hvs hd, stageAfter, hstage, foldl_apply]
  simp [hkept]

end Consecutive

end Tables

/-! ### Writing -/

namespace Store

/-- What is written names only designs that are stored on its own issue.  Nothing in the store
enforces this; it is the rule that a caller keeps. -/
def NamesOwn (s : Store) : Write → Prop
  | .version issue events _ => ∀ e ∈ events, (s.tables.findDesign issue.id e.1).isSome = true
  | _ => True

instance (s : Store) : DecidablePred s.NamesOwn
  | .issue .. => isTrue trivial
  | .design .. => isTrue trivial
  | .version issue events _ =>
    inferInstanceAs (Decidable (∀ e ∈ events, (s.tables.findDesign issue.id e.1).isSome = true))

/-- Writing under an unused id that names only designs of its own issue leaves all actions
within issues. -/
theorem actsWithinIssues_write {s : Store} (hs : s.tables.ActsWithinIssues)
    (hunused : s.tables.Unused s.nextId) {w : Write} (hnames : s.NamesOwn w) :
    (s.write w).tables.ActsWithinIssues := by
  have hkeeps := keeps_write hunused w
  have hold : ∀ a ∈ s.tables.actions, ∃ v, (s.write w).tables.versions.get? a.versionId = some v
      ∧ ((s.write w).tables.findDesign v.issueId a.designId).isSome = true := by
    intro a ha
    obtain ⟨v, hv, hown⟩ := hs a ha
    exact ⟨v, hkeeps.version hv, hkeeps.findDesign hown⟩
  cases w with
  | issue projectId title => exact hold
  | design issue filename => exact hold
  | version issue events createdAt =>
    intro a ha
    rcases List.mem_append.1 ha with ha | ha
    · exact hold a ha
    · obtain ⟨e, he, rfl⟩ := List.mem_map.1 ha
      exact ⟨_, SortedMap.get?_insert_self _ _ _, hnames e he⟩

end Store

end DesignHistory
