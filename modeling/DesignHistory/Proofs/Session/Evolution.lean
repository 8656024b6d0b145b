import DesignHistory.Proofs.Session.Snapshots
import DesignHistory.Proofs.Store.Evolution

/-!
# Snapshots from one version to the next

Nothing is kept from one snapshot to the next, and yet a session in which every commit names
only designs of its own issue has snapshots that follow from each other: take the stages as of
one version of an issue, and let the next version of the issue do to each design what it
recorded for it.  Commits to other issues in between make no difference.

## Main definitions

* `Session.NamesOwn`: what a step writes names only designs of its own issue.

## Main statements

* `Session.actsWithinIssues_after`: every action of a session is on a design of the issue of
  its version.
* `Session.snapshots_evolve`: the stages and the snapshots of two versions that follow each
  other.
-/

namespace DesignHistory.Session

open Lifecycle

/-! ### Actions within issues -/

/-- What a step writes names only designs that are stored on its own issue. -/
def NamesOwn (s : Session) (step : Step) : Prop :=
  ∀ w ∈ s.write? step, s.store.NamesOwn w

instance (s : Session) (step : Step) : Decidable (s.NamesOwn step) :=
  inferInstanceAs (Decidable (∀ w ∈ s.write? step, s.store.NamesOwn w))

/-- A step that names only designs of its own issue leaves all actions within issues. -/
theorem actsWithinIssues_step {s : Session} {step : Step} (hunused : s.FindsUnused step)
    (hnames : s.NamesOwn step) (hs : s.store.tables.ActsWithinIssues) :
    (s.step step).2.store.tables.ActsWithinIssues := by
  rw [tables_step]
  cases hw : s.write? step with
  | none => rw [written_of_none hw]; exact hs
  | some w =>
    rw [written_of_some hw]
    exact Store.actsWithinIssues_write hs (hunused (by rw [hw]; rfl)) (hnames w hw)

/-- The actions of a session that names only designs of the issues it commits to are within
issues. -/
theorem actsWithinIssues_after {steps : List Step} (hids : IdsSuffice steps)
    (hnames : Along NamesOwn empty steps) : (after steps).store.tables.ActsWithinIssues :=
  run_induction (P := fun s => s.store.tables.ActsWithinIssues)
    (fun _ _ hstep hs => actsWithinIssues_step hstep.1 hstep.2 hs)
    (fun _ ha => absurd ha List.not_mem_nil)
    ((along_findsUnused_of_findsId bounded_empty hids).and hnames)

/-! ### Answers -/

section Answers

variable {s : Session} {given : Given Version} {v : Version}

theorem answer_versionsOfIssue (harmed : s.store.armed = none) (issueId : IssueId) :
    (s.step (.ask (.versionsOfIssue issueId))).1
      = .answer (.versions (s.store.tables.versionsOfIssue issueId)) := by
  rw [answer_ask harmed rfl rfl]

theorem answer_actionsOfVersion (harmed : s.store.armed = none) (id : VersionId) :
    (s.step (.ask (.actionsOfVersion id))).1
      = .answer (.actions (s.store.tables.actionsOfVersion id)) := by
  rw [answer_ask harmed rfl rfl]

/-- The designs that a known version changed are found in the tables. -/
theorem answer_changedDesigns (harmed : s.store.armed = none) (hv : s.version? given = some v) :
    (s.step (.ask (.changedDesigns given))).1
      = .answer (.designs (s.store.tables.changedDesigns v)) := by
  have hresolved : (Question.changedDesigns given).resolve? s.design? s.version?
      = some (.changedDesigns v) := by
    rw [Question.resolve?, hv, Option.map_some]
  exact answer_ask harmed hresolved rfl

/-- The answer about all designs of a known version pins those in sight to it. -/
theorem answer_allForVersion (harmed : s.store.armed = none) (hv : s.version? given = some v)
    (filter : DesignFilter) :
    (s.step (.ask (.allForVersion given filter))).1
      = .answer (.pinnedList ((s.store.tables.visibleDesigns v filter).map fun d => .of d v)) := by
  have hresolved : (Question.allForVersion given filter).resolve? s.design? s.version?
      = some (.allForVersion v filter) := by
    rw [Question.resolve?, hv, Option.map_some]
  exact answer_ask harmed hresolved rfl

/-- A design is pinned to a version if it is among those that are. -/
theorem mem_map_pin_iff {d : Design} {l : List Design} :
    PinnedDesign.of d v ∈ l.map (fun d => .of d v) ↔ d ∈ l := by
  rw [List.mem_map]
  constructor
  · rintro ⟨e, he, heq⟩
    obtain rfl : e = d := congrArg PinnedDesign.design heq
    exact he
  · exact fun hd => ⟨d, hd, rfl⟩

end Answers

/-! ### From one version to the next -/

/-- **A snapshot follows from the one before.** In a session whose commits name only designs of
their own issue, the stage of a design as of a version of its issue is what the events that the
version recorded for the design make of the stage as of the version before, or of a design that is
not yet created if there is none.  A design that is in sight as of only one of the two was changed
by the version, and one that is in sight as of the version before stays in sight unless the version
deletes it. -/
theorem snapshots_evolve {steps : List Step} (hids : IdsSuffice steps)
    (hnames : Along NamesOwn empty steps) (harmed : (after steps).store.armed = none)
    (issueId : IssueId) :
    ∃ vs, ((after steps).step (.ask (.versionsOfIssue issueId))).1 = .answer (.versions vs)
      ∧ ∀ newer v older, vs = newer ++ v :: older →
        ∃ actions changed,
          ((after steps).step (.ask (.actionsOfVersion v.id))).1 = .answer (.actions actions)
          ∧ ((after steps).step (.ask (.changedDesigns (.stored v.id)))).1
            = .answer (.designs changed)
          ∧ (∀ d ∈ (after steps).store.tables.designsOfIssue issueId,
            stageAt (after steps).store.tables.actions v.id d.id
              = (eventsOf d.id actions).foldl apply
                (stageAfter (after steps).store.tables.actions older d.id))
          ∧ ∀ p ∈ older.head?, ∀ filter, ∃ earlier now,
            ((after steps).step (.ask (.allForVersion (.stored p.id) filter))).1
                = .answer (.pinnedList earlier)
              ∧ ((after steps).step (.ask (.allForVersion (.stored v.id) filter))).1
                = .answer (.pinnedList now)
              ∧ ∀ d, (¬(.of d p ∈ earlier ↔ .of d v ∈ now) →
                  d ∈ changed)
                ∧ (.of d p ∈ earlier → .deletion ∉ eventsOf d.id actions →
                  .of d v ∈ now) := by
  have hkeyed := keyed_after steps
  have hacts := actsWithinIssues_after hids hnames
  refine ⟨_, answer_versionsOfIssue harmed issueId, fun newer v older hvs => ?_⟩
  have hstored : ∀ w ∈ newer ++ v :: older,
      (after steps).version? (.stored w.id) = some w := by
    intro w hw
    rw [← hvs] at hw
    exact hkeyed.mem_versions_iff.1 (Tables.mem_versionsOfIssue.1 hw).1
  have hv := hstored v (by simp)
  refine ⟨_, _, answer_actionsOfVersion harmed v.id, answer_changedDesigns harmed hv,
    fun d hd => ?_, fun p hp filter => ?_⟩
  · rw [Tables.eventsOf_actionsOfVersion]
    exact Tables.stageAt_of_versionsOfIssue hkeyed hacts hvs hd
  · obtain ⟨rest, rfl⟩ := List.head?_eq_some_iff.1 hp
    have hp := hstored p (by simp)
    refine ⟨_, _, answer_allForVersion harmed hp filter, answer_allForVersion harmed hv filter,
      fun d => ?_⟩
    rw [mem_map_pin_iff, mem_map_pin_iff, Tables.eventsOf_actionsOfVersion]
    exact ⟨Tables.mem_changedDesigns_of_sight hkeyed hacts hvs,
      Tables.mem_visibleDesigns_of_kept hkeyed hacts hvs⟩

/-- Two versions of an issue, the second one with a deletion, and one of another issue between
them. -/
def deletedAcross : List Step :=
  [.insertIssue 7 "a", .insertIssue 7 "b", .insertDesign (.stored 1) "x",
    .insertDesign (.stored 2) "x", .insertDesign (.stored 1) "y",
    .commitVersion (.stored 1) [(3, .creation)] default,
    .commitVersion (.stored 2) [(4, .creation)] default,
    .commitVersion (.stored 1) [(5, .creation), (3, .deletion)] default]

/-- The deletion takes the design from the stage as of the first version, and the design is
among those that the second version changed. -/
theorem snapshots_evolve_deletedAcross :
    stageAt (after deletedAcross).store.tables.actions 8 3
        = [Event.deletion].foldl apply (stageAt (after deletedAcross).store.tables.actions 6 3)
      ∧ ((after deletedAcross).step (.ask (.changedDesigns (.stored 8)))).1
        = .answer (.designs [⟨3, 7, 1, "x"⟩, ⟨5, 7, 1, "y"⟩]) := by
  have hids : IdsSuffice deletedAcross := idsSuffice_of_countP (by decide)
  obtain ⟨vs, hvs, hevolve⟩ := snapshots_evolve hids (by decide) rfl 1
  have hversions : ((after deletedAcross).step (.ask (.versionsOfIssue 1))).1
      = .answer (.versions [
          ⟨8, 1, Version.computeSha 1 (some (Version.computeSha 1 none [⟨3, 6, .creation⟩]))
            [⟨5, 8, .creation⟩, ⟨3, 8, .deletion⟩], none, default⟩,
          ⟨6, 1, Version.computeSha 1 none [⟨3, 6, .creation⟩], none, default⟩]) := rfl
  cases hvs.symm.trans hversions
  obtain ⟨actions, changed, hactions, -, hstages, -⟩ := hevolve [] _ [_] rfl
  have hrecorded : ((after deletedAcross).step (.ask (.actionsOfVersion 8))).1
      = .answer (.actions [⟨3, 8, .deletion⟩, ⟨5, 8, .creation⟩]) := rfl
  cases hactions.symm.trans hrecorded
  exact ⟨hstages ⟨3, 7, 1, "x"⟩ (by decide), rfl⟩

end DesignHistory.Session
