import DesignHistory.Proofs.Lifecycle.ClosedForm
import DesignHistory.Proofs.Store.Growth

/-!
# Snapshots that stay

No snapshot is kept anywhere.  What was in sight as of a version is found each time from
all the actions and all the designs that are there when someone asks.  It is the same each
time, because what comes later is above the version: its actions are not looked at, and its
designs were not acted on when the version was committed.

## Main definitions

* `Tables.ActsOnStored`: every action is on a design in the table.
* `Session.NamesStored`: what a step writes names only designs in the table.
* `Session.AsksAbout`: the questions about one version.

## Main statements

* `Tables.Continued.visibleDesigns_eq`, `Tables.Continued.changedDesigns_eq`: what is
  in sight as of a version and what it changed, in tables that go on.
* `Session.actsOnStored_after`: every action of a session is on a design in the table.
* `Session.snapshots_stay`: the questions about a version keep their answers.
-/

namespace DesignHistory

/-! ### Actions on stored designs -/

/-- Every action is on a design in the table.  Without this a design could be created later under an
id that an old action names, and change an old snapshot. -/
def Tables.ActsOnStored (t : Tables) : Prop :=
  ∀ a ∈ t.actions, t.designs.contains a.designId = true

/-- What is written names only designs in the table. -/
def Store.NamesStored (s : Store) : Write → Prop
  | .version _ events _ => ∀ e ∈ events, s.tables.designs.contains e.1 = true
  | _ => True

instance (s : Store) : DecidablePred s.NamesStored
  | .issue .. => isTrue trivial
  | .design .. => isTrue trivial
  | .version _ events _ =>
    inferInstanceAs (Decidable (∀ e ∈ events, s.tables.designs.contains e.1 = true))

/-- Writing that names only stored designs leaves all actions on stored designs. -/
theorem Store.actsOnStored_write {s : Store} (hs : s.tables.ActsOnStored) {w : Write}
    (hnames : s.NamesStored w) : (s.write w).tables.ActsOnStored := by
  cases w with
  | issue projectId title => exact hs
  | design issue filename =>
    intro a ha
    show (SortedMap.insert _ _ _).contains a.designId = true
    rw [SortedMap.contains, SortedMap.get?_insert]
    split
    · rfl
    · exact hs a ha
  | version issue events createdAt =>
    intro a ha
    rcases List.mem_append.1 ha with ha | ha
    · exact hs a ha
    · obtain ⟨e, he, rfl⟩ := List.mem_map.1 ha
      exact hnames e he

theorem Store.Bounded.designId_le {s : Store} (hs : s.Bounded) (hacts : s.tables.ActsOnStored)
    {a : Action} (ha : a ∈ s.tables.actions) : a.designId ≤ s.lastId := by
  obtain ⟨d, hd⟩ := Option.isSome_iff_exists.1 (hacts a ha)
  exact hs.design hd

/-! ### What tables that go on say about a version -/

namespace Tables.Continued

variable {bound : Int64} {t t' : Tables}

/-- What is in sight below the bound stays in sight, and nothing else comes into sight. -/
theorem visibleAt_eq (h : t.Continued bound t') {id : VersionId} (hid : id ≤ bound) :
    Lifecycle.visibleAt t'.actions id = Lifecycle.visibleAt t.actions id := by
  have hrelevant : Lifecycle.relevant t'.actions id = Lifecycle.relevant t.actions id := by
    unfold Lifecycle.relevant
    rw [h.actions.filter_eq]
    intro a _ ha
    exact decide_eq_false (Int64.not_le.2 (Int64.lt_of_le_of_lt hid ha))
  rw [Lifecycle.visibleAt, Lifecycle.statesAt, hrelevant]
  rfl

/-- The designs in sight below the bound are the same, if no action was ahead of its
design. -/
theorem visibleDesigns_eq (h : t.Continued bound t')
    (hacts : ∀ a ∈ t.actions, a.designId ≤ bound) {v : Version} (hv : v.id ≤ bound)
    (filter : DesignFilter) : t'.visibleDesigns v filter = t.visibleDesigns v filter := by
  unfold Tables.visibleDesigns snapshot
  rw [h.visibleAt_eq hv]
  refine congrArg (sortOn fun d => d.id) (h.designs.filter_eq fun d _ hd => ?_)
  -- a design above the bound is in sight only if something happened to it before
  have hunseen : (Lifecycle.visibleAt t.actions v.id).contains d.id = false := by
    rw [← Bool.not_eq_true, List.contains_iff_mem, Lifecycle.mem_visibleAt_iff]
    rintro ⟨hhappened, -⟩
    obtain ⟨a, ha, hon⟩ := List.any_eq_true.1 hhappened
    obtain ⟨hdesign, -⟩ := (Bool.and_eq_true_iff).1 hon
    have hle := hacts a ha
    rw [beq_iff_eq.1 hdesign] at hle
    exact Int64.not_le.2 hd hle
  show (_ && List.contains _ d.id && _) = false
  rw [hunseen, Bool.and_false, Bool.false_and]

/-- The designs that a version below the bound acted on are the same, if no action was
ahead of its design. -/
theorem changedDesigns_eq (h : t.Continued bound t')
    (hacts : ∀ a ∈ t.actions, a.designId ≤ bound) {v : Version} (hv : v.id ≤ bound) :
    t'.changedDesigns v = t.changedDesigns v := by
  have hacted : ∀ d : Design,
      t'.actions.any (fun a => a.versionId == v.id && a.designId == d.id)
        = t.actions.any fun a => a.versionId == v.id && a.designId == d.id := by
    intro d
    refine h.actions.any_eq fun a _ ha => ?_
    have hne : a.versionId ≠ v.id := (Int64.ne_of_lt (Int64.lt_of_le_of_lt hv ha)).symm
    rw [beq_eq_false_iff_ne.2 hne, Bool.false_and]
  unfold Tables.changedDesigns Tables.designsOfIssue
  simp only [hacted, List.filter_filter]
  refine h.designs.filter_eq fun d _ hd => ?_
  have huntouched : t.actions.any (fun a => a.versionId == v.id && a.designId == d.id)
      = false := by
    refine List.any_eq_false.2 fun a ha => ?_
    have hne : a.designId ≠ d.id := Int64.ne_of_lt (Int64.lt_of_le_of_lt (hacts a ha) hd)
    rw [beq_eq_false_iff_ne.2 hne, Bool.and_false]
    exact Bool.false_ne_true
  rw [huntouched, Bool.false_and]

end Tables.Continued

/-! ### Sessions -/

namespace Session

/-- What a step writes names only designs in the table. -/
def NamesStored (s : Session) (step : Step) : Prop :=
  ∀ w ∈ s.write? step, s.store.NamesStored w

instance (s : Session) (step : Step) : Decidable (s.NamesStored step) :=
  inferInstanceAs (Decidable (∀ w ∈ s.write? step, s.store.NamesStored w))

/-- A step that names only stored designs leaves all actions on stored designs. -/
theorem actsOnStored_step {s : Session} {step : Step} (hnames : s.NamesStored step)
    (hs : s.store.tables.ActsOnStored) : (s.step step).2.store.tables.ActsOnStored := by
  rw [tables_step]
  cases hw : s.write? step with
  | none => rw [written_of_none hw]; exact hs
  | some w => rw [written_of_some hw]; exact Store.actsOnStored_write hs (hnames w hw)

/-- The actions of a session that names only stored designs are on stored designs. -/
theorem actsOnStored_after {steps : List Step} (hnames : Along NamesStored empty steps) :
    (after steps).store.tables.ActsOnStored :=
  run_induction (P := fun s => s.store.tables.ActsOnStored)
    (fun _ _ hstep hs => actsOnStored_step hstep hs) (fun _ ha => absurd ha List.not_mem_nil) hnames

/-- A version given in full or by its id.  The two are the same for a version that is stored as it
is given. -/
inductive Means (v : Version) : Given Version → Prop
  | literal : Means v (.literal v)
  | stored : Means v (.stored v.id)

/-- The questions that are asked about one version.  Each of them is answered from the actions up to
the version and from the designs. -/
inductive AsksAbout (v : Version) : Question (Given Design) (Given Version) → Prop
  | allForVersion {given : Given Version} (hgiven : Means v given) (filter : DesignFilter) :
    AsksAbout v (.allForVersion given filter)
  | visibleDesigns {given : Given Version} (hgiven : Means v given) (filter : DesignFilter) :
    AsksAbout v (.visibleDesigns given filter)
  | changedDesigns {given : Given Version} (hgiven : Means v given) :
    AsksAbout v (.changedDesigns given)
  | actionsOfVersion : AsksAbout v (.actionsOfVersion v.id)

theorem version?_of_means {s : Session} {v : Version} {given : Given Version}
    (hstored : s.store.tables.versions.get? v.id = some v) (hgiven : Means v given) :
    s.version? given = some v := by
  cases hgiven with
  | literal => rfl
  | stored => exact hstored

/-- A question about a stored version reads from the tables only what stays.  The same function of
the tables answers it in every session that has the version stored. -/
theorem AsksAbout.reads {v : Version} {question : Question (Given Design) (Given Version)}
    (h : AsksAbout v question) :
    ∃ (resolved : Question Design Version) (read : Tables → Answer),
      (∀ s : Session, s.store.tables.versions.get? v.id = some v →
        question.resolve? s.design? s.version? = some resolved)
      ∧ resolved.inquiry = .asks read
      ∧ ∀ (bound : Int64) (t t' : Tables), t.Continued bound t' →
        (∀ a ∈ t.actions, a.designId ≤ bound) → v.id ≤ bound → read t' = read t := by
  cases h with
  | allForVersion hgiven filter =>
    refine ⟨.allForVersion v filter, _, fun s hstored => ?_, rfl, fun bound t t' ht hacts hv => ?_⟩
    · rw [Question.resolve?, version?_of_means hstored hgiven, Option.map_some]
    · show Answer.pinnedList ((t'.visibleDesigns v filter).map _) = _
      rw [ht.visibleDesigns_eq hacts hv]
  | visibleDesigns hgiven filter =>
    refine ⟨.visibleDesigns v filter, _, fun s hstored => ?_, rfl, fun bound t t' ht hacts hv => ?_⟩
    · rw [Question.resolve?, version?_of_means hstored hgiven, Option.map_some]
    · rw [ht.visibleDesigns_eq hacts hv]
  | changedDesigns hgiven =>
    refine ⟨.changedDesigns v, _, fun s hstored => ?_, rfl, fun bound t t' ht hacts hv => ?_⟩
    · rw [Question.resolve?, version?_of_means hstored hgiven, Option.map_some]
    · show Answer.designs (t'.changedDesigns v) = _
      rw [ht.changedDesigns_eq hacts hv]
  | actionsOfVersion =>
    refine ⟨.actionsOfVersion v.id, _, fun s _ => rfl, rfl, fun bound t t' ht _ hv => ?_⟩
    rw [ht.actionsOfVersion_eq hv]

/-- **Snapshots stay.** A question about a version that was committed, with only stored designs
named up to then, has the same answer right after the commit and at every later moment of the
session. -/
theorem snapshots_stay {before later : List Step} {issue : Given Issue}
    {events : List (DesignId × Event)} {createdAt : Instant} {v : Version}
    (hcommit : ((after before).step (.commitVersion issue events createdAt)).1
      = .answer (.version (some v)))
    (hids : IdsSuffice (before ++ [.commitVersion issue events createdAt] ++ later))
    (hnames : Along NamesStored empty (before ++ [.commitVersion issue events createdAt]))
    (harmed : (after (before ++ [.commitVersion issue events createdAt])).store.armed = none)
    (harmed' : (after (before ++ [.commitVersion issue events createdAt] ++ later)).store.armed
      = none)
    {question : Question (Given Design) (Given Version)} (hquestion : AsksAbout v question) :
    ∃ answer,
      ((after (before ++ [.commitVersion issue events createdAt])).step (.ask question)).1
          = .answer answer
        ∧ ((after (before ++ [.commitVersion issue events createdAt] ++ later)).step
            (.ask question)).1 = .answer answer := by
  obtain ⟨resolved, read, hresolve, hasks, hread⟩ := hquestion.reads
  obtain ⟨hid, hstored⟩ := stored_at_commit hcommit
  have hbounded := bounded_after (along_append.1 hids).1
  -- the last id given out at the commit separates what the question reads from what comes later
  have hsame := hread _ _ _ (continues_after hids).tables
    (fun a ha => hbounded.designId_le (actsOnStored_after hnames) ha) (hid ▸ Int64.le_refl _)
  refine ⟨_, answer_ask harmed (hresolve _ hstored) hasks, ?_⟩
  rw [answer_ask harmed' (hresolve _ (stored_after_commit hids hcommit)) hasks, hsame]

/-- An issue with a design. -/
def withDesign : List Step := [.insertIssue 7 "a", .insertDesign (.stored 1) "b"]

/-- The creation of the design. -/
def createDesign : Step := .commitVersion (.stored 1) [(2, .creation)] default

/-- The deletion of the design, and the creation of another one. -/
def deleteDesign : List Step :=
  [.insertDesign (.stored 1) "c",
    .commitVersion (.stored 1) [(2, .deletion), (4, .creation)] default]

/-- A deletion leaves a design in sight as of the version that created it. -/
theorem snapshots_stay_past_deletion :
    ((after (withDesign ++ [createDesign] ++ deleteDesign)).step
        (.ask (.allForVersion (.stored 3) {}))).1
      = .answer (.pinnedList [.of ⟨2, 7, 1, "b"⟩
          ⟨3, 1, Version.computeSha 1 none [⟨2, 3, .creation⟩], none, default⟩]) := by
  have hcommit : ((after withDesign).step createDesign).1 = .answer (.version (some
      ⟨3, 1, Version.computeSha 1 none [⟨2, 3, .creation⟩], none, default⟩)) := rfl
  have hids : IdsSuffice (withDesign ++ [createDesign] ++ deleteDesign) :=
    idsSuffice_of_countP (by decide)
  obtain ⟨answer, hfirst, hlater⟩ := snapshots_stay hcommit hids (by decide) rfl rfl
    (.allForVersion .stored {})
  have hanswer : ((after (withDesign ++ [createDesign])).step
      (.ask (.allForVersion (.stored 3) {}))).1
        = .answer (.pinnedList [.of ⟨2, 7, 1, "b"⟩
            ⟨3, 1, Version.computeSha 1 none [⟨2, 3, .creation⟩], none, default⟩]) := rfl
  rw [← hanswer]
  exact hlater.trans hfirst.symm

end Session

end DesignHistory
