import DesignHistory.Proofs.Lifecycle.ClosedForm
import DesignHistory.Proofs.Selection.Accepts
import DesignHistory.Proofs.Store.Keeping

/-!
# What is on record about an issue

All issues share one counter of ids, one table of designs and one list of actions, and what
is in sight as of a version is found by comparing ids of all issues.  Even so, a question
about an issue is answered from three things only: the designs of the issue, its versions,
and the actions on its designs, whichever version recorded them.  Writing on another issue
changes none of the three.

## Main definitions

* `Tables.actionsOnIssue`: the actions on the designs of an issue.
* `Tables.SameAbout`: two tables have the same on record about an issue.
* `Store.WritesOn`: what is written is on one issue and names only its designs.

## Main statements

* `Tables.SameAbout.findDesign_eq` and the statements after it: what two such tables answer.
* `Store.sameAbout_write`: writing on one issue leaves the records of the others.
-/

namespace DesignHistory

namespace Tables

/-! ### The records of an issue -/

/-- The actions on the designs of an issue, whichever version recorded them.  A version of another
issue may name a design of this one, and then counts for its stages. -/
def actionsOnIssue (t : Tables) (issueId : IssueId) : List Action :=
  t.actions.filter fun a => (t.designsOfIssue issueId).any fun d => d.id == a.designId

/-- Two tables have the same on record about an issue.  Ids that other issues use are left out of
account. -/
structure SameAbout (issueId : IssueId) (t t' : Tables) : Prop where
  designs : t'.designsOfIssue issueId = t.designsOfIssue issueId
  versions : t'.versionsOfIssue issueId = t.versionsOfIssue issueId
  actions : t'.actionsOnIssue issueId = t.actionsOnIssue issueId

variable {t t' t'' : Tables} {issueId : IssueId}

namespace SameAbout

theorem refl (issueId : IssueId) (t : Tables) : SameAbout issueId t t := ⟨rfl, rfl, rfl⟩

/-- What is the same in two tables, and in the second and a third one, is the same in the
first and the third one. -/
theorem trans (h : SameAbout issueId t t') (h' : SameAbout issueId t' t'') :
    SameAbout issueId t t'' :=
  ⟨h'.designs.trans h.designs, h'.versions.trans h.versions, h'.actions.trans h.actions⟩

end SameAbout

theorem mem_designsOfIssue {d : Design} :
    d ∈ t.designsOfIssue issueId ↔ d ∈ t.designs.values ∧ d.issueId = issueId := by
  rw [designsOfIssue, List.mem_filter, beq_iff_eq]

theorem reverse_versionsOfIssue (t : Tables) (issueId : IssueId) :
    (t.versionsOfIssue issueId).reverse
      = t.versions.values.filter fun v => v.issueId == issueId := by
  rw [versionsOfIssue, List.filter_reverse, List.reverse_reverse]

/-! ### Questions read off the records of an issue -/

/-- A design of an issue is found among the designs of the issue.  The look-up by id goes to the
whole table, and this brings it back to what is on record about the issue. -/
theorem findDesign_eq_find? (ht : t.Keyed) (id : DesignId) :
    t.findDesign issueId id = (t.designsOfIssue issueId).find? fun d => d.id == id := by
  refine Option.ext fun d => ?_
  rw [findDesign, Option.filter_eq_some_iff, beq_iff_eq]
  constructor
  · rintro ⟨hd, hissue⟩
    obtain rfl := ht.design hd
    have hmem : d ∈ t.designsOfIssue issueId :=
      mem_designsOfIssue.2 ⟨ht.mem_designs_iff.2 hd, hissue⟩
    have hfound : ((t.designsOfIssue issueId).find? fun e => e.id == d.id).isSome := by
      rw [List.find?_isSome]
      exact ⟨d, hmem, beq_self_eq_true _⟩
    obtain ⟨e, he⟩ := Option.isSome_iff_exists.1 hfound
    have hemem := mem_designsOfIssue.1 (List.mem_of_find?_eq_some he)
    have heid : e.id = d.id := by simpa using List.find?_some he
    have hestored := ht.mem_designs_iff.1 hemem.1
    rw [heid, hd] at hestored
    rw [he, Option.some.inj hestored]
  · intro hfound
    obtain ⟨hd, hissue⟩ := mem_designsOfIssue.1 (List.mem_of_find?_eq_some hfound)
    have hid : d.id = id := by simpa using List.find?_some hfound
    rw [← hid]
    exact ⟨ht.mem_designs_iff.1 hd, hissue⟩

/-- Whether some action on a design of an issue has a property can be told from the actions
on the designs of the issue. -/
theorem any_actionsOnIssue {d : Design} (hd : d ∈ t.designsOfIssue issueId)
    (p : Action → Bool) :
    (t.actionsOnIssue issueId).any (fun a => a.designId == d.id && p a)
      = t.actions.any fun a => a.designId == d.id && p a := by
  rw [actionsOnIssue, List.any_filter]
  refine List.any_congr rfl fun a => ?_
  by_cases ha : a.designId = d.id
  · have hon : (t.designsOfIssue issueId).any (fun d => d.id == a.designId) = true :=
      List.any_eq_true.2 ⟨d, hd, beq_iff_eq.2 ha.symm⟩
    rw [hon, Bool.true_and]
  · rw [beq_eq_false_iff_ne.2 ha, Bool.false_and, Bool.and_false]

/-- Whether a design of an issue is in sight can be told from the actions on the designs of
the issue. -/
theorem contains_visibleAt_actionsOnIssue {d : Design} (hd : d ∈ t.designsOfIssue issueId)
    (versionId : VersionId) :
    (Lifecycle.visibleAt (t.actionsOnIssue issueId) versionId).contains d.id
      = (Lifecycle.visibleAt t.actions versionId).contains d.id := by
  have hhappened := any_actionsOnIssue hd fun a => decide (a.versionId ≤ versionId)
  have hended := any_actionsOnIssue hd fun a =>
    decide (a.versionId ≤ versionId) && a.event == .deletion
  simp only [← Bool.and_assoc] at hended
  rw [Bool.eq_iff_iff, List.contains_iff_mem, List.contains_iff_mem,
    Lifecycle.mem_visibleAt_iff, Lifecycle.mem_visibleAt_iff, Lifecycle.happened,
    Lifecycle.happened, Lifecycle.ended, Lifecycle.ended, hhappened, hended]

/-- A snapshot is made from the records of the issue of its version. -/
theorem visibleDesigns_eq_sortOn (t : Tables) (v : Version) (filter : DesignFilter) :
    t.visibleDesigns v filter = sortOn (fun d => d.id) ((t.designsOfIssue v.issueId).filter fun d =>
      (Lifecycle.visibleAt (t.actionsOnIssue v.issueId) v.id).contains d.id
        && filter.accepts d.id d.filename) := by
  have hvisible : ∀ d ∈ t.designsOfIssue v.issueId,
      ((Lifecycle.visibleAt (t.actionsOnIssue v.issueId) v.id).contains d.id
        && filter.accepts d.id d.filename)
      = ((Lifecycle.visibleAt t.actions v.id).contains d.id
        && filter.accepts d.id d.filename) := by
    intro d hd
    rw [contains_visibleAt_actionsOnIssue hd]
  rw [List.filter_congr hvisible, designsOfIssue, List.filter_filter, visibleDesigns, snapshot]
  refine congrArg (sortOn fun d : Design => d.id) (List.filter_congr fun d _ => ?_)
  rw [Bool.and_assoc, Bool.and_comm]

/-- What a version changed is found among the records of its issue. -/
theorem changedDesigns_eq_filter (t : Tables) (v : Version) :
    t.changedDesigns v = (t.designsOfIssue v.issueId).filter fun d =>
      (t.actionsOnIssue v.issueId).any fun a => a.designId == d.id && a.versionId == v.id := by
  refine List.filter_congr fun d hd => ?_
  rw [any_actionsOnIssue hd]
  exact List.any_congr rfl fun a => Bool.and_comm _ _

/-- Elements that give nothing can be left out. -/
private theorem flatMap_filter_of_nil {α β : Type} {p : α → Bool} {f : α → List β} {l : List α}
    (h : ∀ a ∈ l, p a = false → f a = []) : (l.filter p).flatMap f = l.flatMap f := by
  induction l with
  | nil => rfl
  | cons a rest ih =>
    have hrest := ih fun b hb => h b (List.mem_cons_of_mem _ hb)
    cases hp : p a with
    | false =>
      rw [List.filter_cons_of_neg (Bool.eq_false_iff.1 hp), hrest, List.flatMap_cons,
        h a List.mem_cons_self hp, List.nil_append]
    | true => rw [List.filter_cons_of_pos hp, List.flatMap_cons, hrest, List.flatMap_cons]

/-- A selection that is restricted to an issue is made from the records of the issue.  Pairs of
other issues would be turned down anyway. -/
theorem select_eq_select {s : Selection} (hs : s.issueId = some issueId) (t : Tables) :
    t.select s = s.select (t.designsOfIssue issueId) (t.versionsOfIssue issueId).reverse := by
  have hof : ∀ {d v}, s.accepts d v = true → d.issueId = issueId ∧ v.issueId = issueId := by
    intro d v haccepts
    simp only [Selection.accepts, hs, Bool.and_eq_true, beq_iff_eq] at haccepts
    exact ⟨haccepts.1.2, haccepts.1.1.symm.trans haccepts.1.2⟩
  have hversions : ∀ d, (t.versionsOfIssue issueId).reverse.filter (fun v => s.accepts d v)
      = t.versions.values.filter fun v => s.accepts d v := by
    intro d
    rw [reverse_versionsOfIssue, List.filter_filter]
    refine List.filter_congr fun v _ => ?_
    cases haccepts : s.accepts d v with
    | false => rfl
    | true => rw [Bool.true_and, beq_iff_eq.2 (hof haccepts).2]
  simp only [select, Selection.select, hversions, designsOfIssue]
  -- a design of another issue is paired with no version
  refine (flatMap_filter_of_nil fun d _ hd => ?_).symm
  rw [List.map_eq_nil_iff, List.filter_eq_nil_iff]
  intro v _ haccepts
  exact beq_eq_false_iff_ne.1 hd (hof haccepts).1

/-! ### What two tables answer -/

namespace SameAbout

/-- A design of the issue is found in both tables or in none. -/
theorem findDesign_eq (h : SameAbout issueId t t') (ht : t.Keyed) (ht' : t'.Keyed)
    (id : DesignId) : t'.findDesign issueId id = t.findDesign issueId id := by
  rw [findDesign_eq_find? ht', findDesign_eq_find? ht, h.designs]

/-- A file of the issue is found in both tables or in none. -/
theorem findDesignByFilename_eq (h : SameAbout issueId t t') (filename : String) :
    t'.findDesignByFilename issueId filename = t.findDesignByFilename issueId filename := by
  have hfind : ∀ t : Tables, t.findDesignByFilename issueId filename
      = (t.designsOfIssue issueId).find? fun d => d.filename == filename := by
    intro t
    simp only [designsOfIssue, List.find?_filter, Bool.decide_and, Bool.decide_eq_true]
    rfl
  rw [hfind, hfind, h.designs]

/-- A version of the issue is found by its hash in both tables or in none. -/
theorem findVersionBySha_eq (h : SameAbout issueId t t') (sha : String) :
    t'.findVersionBySha issueId sha = t.findVersionBySha issueId sha := by
  have hfind : ∀ t : Tables, t.findVersionBySha issueId sha
      = (t.versionsOfIssue issueId).reverse.find? fun v => v.sha == sha := by
    intro t
    simp only [reverse_versionsOfIssue, List.find?_filter, Bool.decide_and, Bool.decide_eq_true]
    rfl
  rw [hfind, hfind, h.versions]

theorem headSha_eq (h : SameAbout issueId t t') : t'.headSha issueId = t.headSha issueId := by
  rw [headSha, h.versions, headSha]

theorem visibleDesigns_eq {v : Version} (h : SameAbout v.issueId t t') (filter : DesignFilter) :
    t'.visibleDesigns v filter = t.visibleDesigns v filter := by
  rw [visibleDesigns_eq_sortOn, h.designs, h.actions, ← visibleDesigns_eq_sortOn]

theorem changedDesigns_eq {v : Version} (h : SameAbout v.issueId t t') :
    t'.changedDesigns v = t.changedDesigns v := by
  rw [changedDesigns_eq_filter, h.designs, h.actions, ← changedDesigns_eq_filter]

theorem select_eq (h : SameAbout issueId t t') {s : Selection} (hs : s.issueId = some issueId) :
    t'.select s = t.select s := by
  rw [select_eq_select hs, h.designs, h.versions, ← select_eq_select hs]

end SameAbout

end Tables

/-! ### Writing on another issue -/

namespace Store

/-- What is written is a new issue, or it is on one issue and names only designs that are
stored on it. -/
def WritesOn (s : Store) (issueId : IssueId) : Write → Prop
  | .issue .. => True
  | .design issue _ => issue.id = issueId
  | .version issue events _ =>
    issue.id = issueId ∧ ∀ e ∈ events, (s.tables.findDesign issueId e.1).isSome = true

instance (s : Store) (issueId : IssueId) : DecidablePred (s.WritesOn issueId)
  | .issue .. => isTrue trivial
  | .design issue _ => inferInstanceAs (Decidable (issue.id = issueId))
  | .version issue events _ =>
    inferInstanceAs (Decidable (issue.id = issueId
      ∧ ∀ e ∈ events, (s.tables.findDesign issueId e.1).isSome = true))

variable {s : Store} {a b : IssueId}

/-- No design of one issue is stored on another one. -/
theorem ne_of_findDesign (hs : s.tables.Keyed) (hne : a ≠ b) {id : DesignId}
    (hid : (s.tables.findDesign a id).isSome = true) {d : Design}
    (hd : d ∈ s.tables.designsOfIssue b) : d.id ≠ id := by
  rintro rfl
  obtain ⟨e, he⟩ := Option.isSome_iff_exists.1 hid
  obtain ⟨hstored, hissue⟩ := Option.filter_eq_some_iff.1 he
  obtain ⟨hmem, rfl⟩ := Tables.mem_designsOfIssue.1 hd
  rw [hs.mem_designs_iff.1 hmem] at hstored
  obtain rfl := Option.some.inj hstored
  exact hne (beq_iff_eq.1 hissue).symm

/-- **Writing on one issue under an unused id leaves the records of every other issue as they
are.** -/
theorem sameAbout_write (hs : s.tables.Keyed) (hunused : s.tables.Unused s.nextId) (hne : a ≠ b)
    {w : Write} (hw : s.WritesOn a w) : s.tables.SameAbout b (s.write w).tables := by
  cases w with
  | issue projectId title => exact ⟨rfl, rfl, rfl⟩
  | design issue filename =>
    obtain rfl : issue.id = a := hw
    have hdesigns : (s.write (.design issue filename)).tables.designsOfIssue b
        = s.tables.designsOfIssue b :=
      SortedMap.filter_values_insert hunused.design (beq_eq_false_iff_ne.2 hne)
    refine ⟨hdesigns, rfl, ?_⟩
    rw [Tables.actionsOnIssue, hdesigns]
    rfl
  | version issue events createdAt =>
    obtain ⟨rfl, hevents⟩ := hw
    refine ⟨rfl, ?_, ?_⟩
    · refine List.reverse_inj.1 ?_
      rw [Tables.reverse_versionsOfIssue, Tables.reverse_versionsOfIssue]
      exact SortedMap.filter_values_insert hunused.version (beq_eq_false_iff_ne.2 hne)
    · have hnone : (events.map fun e => (⟨e.1, s.nextId, e.2⟩ : Action)).filter
          (fun action => (s.tables.designsOfIssue b).any fun d => d.id == action.designId)
          = [] := by
        refine List.filter_eq_nil_iff.2 fun action haction hon => ?_
        obtain ⟨e, he, rfl⟩ := List.mem_map.1 haction
        obtain ⟨d, hd, hid⟩ := List.any_eq_true.1 hon
        exact ne_of_findDesign hs hne (hevents e he) hd (beq_iff_eq.1 hid)
      show List.filter _ (s.tables.actions ++ _) = s.tables.actionsOnIssue b
      rw [List.filter_append]
      exact (congrArg (_ ++ ·) hnone).trans (List.append_nil _)

end Store

end DesignHistory
