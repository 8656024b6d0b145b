import DesignHistory.Proofs.Session.Coherence
import DesignHistory.Proofs.Session.Events
import DesignHistory.Proofs.Session.Evolution

/-!
# Changed designs and recorded events

What a version did is read from the actions in three ways: the designs of its issue for which
there is some action, the first event for one design, and a table with an event for each design
that the version acted on.  A commit may name designs of other issues, designs that are not
stored, and one design several times.  The three select the same designs of the issue, and the
table has all that the commit named.

## Main definitions

* `Session.Commits`, `Session.CommittedWith`: the commit of a version with some events.

## Main statements

* `Session.version_step_cases`, `Session.mem_actions_step_iff`: what a step adds to the versions and
  to the actions, it commits.
* `Session.exists_committedWith`, `Session.mem_actions_after_iff`: every version and every action
  was committed.
* `Session.changes_agree`: the three ways agree.
-/

namespace DesignHistory.Session

variable {s : Session} {step : Step} {steps : List Step} {v : Version}
  {named : List (DesignId × Event)}

/-! ### Commits -/

/-- A step commits a version with some events. -/
def Commits (s : Session) (step : Step) (v : Version) (named : List (DesignId × Event)) : Prop :=
  ∃ issue createdAt, step = .commitVersion issue named createdAt
    ∧ (s.step step).1 = .answer (.version (some v))

/-- A step commits what it writes as a version. -/
theorem commits_iff :
    s.Commits step v named ↔ ∃ issue createdAt,
      s.write? step = some (.version issue named createdAt)
        ∧ (s.store.commitVersion issue named createdAt).1 = v := by
  constructor
  · rintro ⟨given, createdAt, rfl, hanswer⟩
    obtain ⟨issue, hwrite, hv⟩ := write?_of_commit hanswer
    exact ⟨issue, createdAt, hwrite, hv⟩
  · rintro ⟨issue, createdAt, hwrite, rfl⟩
    cases step with
    | commitVersion given events createdAt' =>
      obtain ⟨issue', hissue, hversion⟩ := Option.map_eq_some_iff.1 hwrite
      injection hversion with hissues hevents hcreated
      subst hissues hevents hcreated
      exact ⟨given, _, rfl, by simp only [Session.step, hissue]⟩
    | insertDesign given filename =>
      obtain ⟨issue', -, hdesign⟩ := Option.map_eq_some_iff.1 hwrite
      cases hdesign
    | _ => cases hwrite

/-- A version that is stored after a step was stored before, or the step commits it.  Nothing is
assumed about the ids: what the new version might replace does not matter here. -/
theorem version_step_cases {id : VersionId}
    (h : (s.step step).2.store.tables.versions.get? id = some v) :
    s.store.tables.versions.get? id = some v ∨ ∃ named, s.Commits step v named := by
  rw [tables_step] at h
  cases hwrite : s.write? step with
  | none => exact .inl (by rwa [written_of_none hwrite] at h)
  | some w =>
    rw [written_of_some hwrite] at h
    cases w with
    | issue projectId title => exact .inl h
    | design issue filename => exact .inl h
    | version issue events createdAt =>
      have hinsert : (s.store.tables.versions.insert s.store.nextId
          (s.store.commitVersion issue events createdAt).1).get? id = some v := h
      rw [SortedMap.get?_insert] at hinsert
      split at hinsert
      · exact .inr ⟨events, commits_iff.2 ⟨issue, createdAt, hwrite, Option.some.inj hinsert⟩⟩
      · exact .inl hinsert

/-- An action that is on record after a step was on record before, or the step commits its version
with it.  Neither the order of the actions nor how often one is recorded is left in this form. -/
theorem mem_actions_step_iff {a : Action} :
    a ∈ (s.step step).2.store.tables.actions ↔ a ∈ s.store.tables.actions
      ∨ ∃ v named, s.Commits step v named ∧ v.id = a.versionId ∧ (a.designId, a.event) ∈ named := by
  rw [tables_step]
  cases hwrite : s.write? step with
  | none =>
    rw [written_of_none hwrite]
    simp [commits_iff, hwrite]
  | some w =>
    rw [written_of_some hwrite]
    cases w with
    | issue projectId title => simp [commits_iff, hwrite, Store.write, Store.insertIssue]
    | design issue filename => simp [commits_iff, hwrite, Store.write, Store.insertDesign]
    | version issue events createdAt =>
      show a ∈ s.store.tables.actions ++ events.map _ ↔ _
      rw [List.mem_append, List.mem_map]
      refine or_congr_right ?_
      constructor
      · rintro ⟨e, he, rfl⟩
        exact ⟨_, events, commits_iff.2 ⟨issue, createdAt, hwrite, rfl⟩, rfl, he⟩
      · rintro ⟨v, named, hcommits, hid, hnamed⟩
        obtain ⟨issue', createdAt', hwrite', rfl⟩ := commits_iff.1 hcommits
        obtain ⟨rfl, rfl, rfl⟩ : issue = issue' ∧ events = named ∧ createdAt = createdAt' := by
          simpa [hwrite] using hwrite'
        obtain ⟨designId, versionId, event⟩ := a
        obtain rfl : s.store.nextId = versionId := hid
        exact ⟨_, hnamed, rfl⟩

/-- A version was committed with some events. -/
def CommittedWith (steps : List Step) (v : Version) (named : List (DesignId × Event)) : Prop :=
  ∃ before step later, steps = before ++ step :: later ∧ (after before).Commits step v named

/-- What was committed after one more step. -/
theorem committedWith_append_iff :
    CommittedWith (steps ++ [step]) v named
      ↔ CommittedWith steps v named ∨ (after steps).Commits step v named := by
  constructor
  · rintro ⟨before, step', later, hsteps, hcommits⟩
    rcases snoc_eq_append_cons_iff.1 hsteps with ⟨-, rfl, rfl⟩ | ⟨earlier, -, hearlier⟩
    · exact .inr hcommits
    · exact .inl ⟨before, step', earlier, hearlier, hcommits⟩
  · rintro (⟨before, step', later, rfl, hcommits⟩ | hcommits)
    · exact ⟨before, step', later ++ [step], by simp, hcommits⟩
    · exact ⟨steps, step, [], rfl, hcommits⟩

/-- A stored version was committed.  There is no other way into the table of versions, which is why
what is known of commits is known of all versions. -/
theorem exists_committedWith {id : VersionId}
    (h : (after steps).store.tables.versions.get? id = some v) :
    ∃ named, CommittedWith steps v named := by
  induction steps using List.reverseRecOn with
  | nil => cases h
  | append_singleton steps step ih =>
    rw [after_append, run_cons, run_nil] at h
    simp only [committedWith_append_iff, exists_or]
    exact (version_step_cases h).imp_left ih

/-- **The actions on record are those that the versions were committed with.** -/
theorem mem_actions_after_iff {a : Action} :
    a ∈ (after steps).store.tables.actions ↔ ∃ v named,
      CommittedWith steps v named ∧ v.id = a.versionId ∧ (a.designId, a.event) ∈ named := by
  induction steps using List.reverseRecOn with
  | nil =>
    refine iff_of_false List.not_mem_nil ?_
    rintro ⟨v, named, ⟨before, step, later, hsteps, -⟩, -⟩
    simp at hsteps
  | append_singleton steps step ih =>
    rw [after_append, run_cons, run_nil, mem_actions_step_iff, ih]
    simp only [committedWith_append_iff, or_and_right, exists_or]

/-- The designs in the table of a version's events are those that the commits under its id
named. -/
theorem mem_keys_after_iff {versionId : VersionId} {designId : DesignId} :
    designId ∈ ((after steps).store.tables.eventsOfVersion versionId).keys ↔ ∃ v named,
      CommittedWith steps v named ∧ v.id = versionId ∧ designId ∈ named.map Prod.fst := by
  rw [Tables.mem_keys_eventsOfVersion, Tables.eventsOn_ne_nil_iff]
  simp only [mem_actions_after_iff, List.mem_map, Prod.exists]
  constructor
  · rintro ⟨a, ⟨v, named, hcommitted, hid, hnamed⟩, rfl, rfl⟩
    exact ⟨v, named, hcommitted, hid, a.designId, a.event, hnamed, rfl⟩
  · rintro ⟨v, named, hcommitted, hid, designId, event, hnamed, rfl⟩
    exact ⟨⟨designId, versionId, event⟩, ⟨v, named, hcommitted, hid, hnamed⟩, rfl, rfl⟩

/-- As long as the ids suffice, these are the designs that the commit of the version named. -/
theorem mem_keys_of_committedWith (hids : IdsSuffice steps) (h : CommittedWith steps v named)
    (designId : DesignId) :
    designId ∈ ((after steps).store.tables.eventsOfVersion v.id).keys
      ↔ designId ∈ named.map Prod.fst := by
  obtain ⟨before, step, later, rfl, given, createdAt, rfl, hanswer⟩ := h
  rw [List.append_cons] at hids ⊢
  rw [Tables.mem_keys_eventsOfVersion, eventsOn_after_commit hids hanswer, ne_eq,
    List.map_eq_nil_iff, List.filter_eq_nil_iff, List.mem_map]
  simp

/-! ### Answers -/

/-- A new cache answers with the events of a version that are in the tables. -/
theorem outcome_eventsFor_of_new {s : Session} (harmed : s.store.armed = none)
    {given : Given Version} {v : Version} (hv : s.version? given = some v) (cache : String) :
    ((s.step (.newCache cache)).2.step (.eventsFor cache given)).1
      = .answer (.events (s.store.tables.eventsOfVersion v.id)) := by
  have hnew : (s.step (.newCache cache)).2.UpToDate cache v.id :=
    upToDate_of_not_holds (not_holds_newCache s cache v.id)
  have hmade : ((s.step (.newCache cache)).2.caches.get? cache).isSome = true :=
    isSome_cache_step_iff.2 (.inl rfl)
  have hmeant : (s.step (.newCache cache)).2.version? given = some v := hv
  rw [outcome_eventsFor hmeant]
  exact (lookup_eq_answer_iff hnew).2 ⟨rfl, hmade, .inr harmed⟩

/-- **What a version changed, asked in three ways.** In a session without an armed failure, the
designs that a stored version changed are those of its issue for which asking the pair gives an
event, and those of its issue for which a new cache has an event, each once and with increasing ids.
The version was committed, and the cache has an event for exactly the designs that commits under its
id named, stored or not and of whatever issue; as long as the ids suffice there is one such
commit. -/
theorem changes_agree (harmed : (after steps).store.armed = none)
    (hv : (after steps).store.tables.versions.get? v.id = some v) {given : Given Version}
    (hgiven : Means v given) (cache : String) :
    ∃ (all changed : List Design) (eventOf : Design → Option Event)
        (events : SortedMap DesignId Event),
      ((after steps).step (.ask (.designsOfIssue v.issueId))).1 = .answer (.designs all)
        ∧ ((after steps).step (.ask (.changedDesigns given))).1 = .answer (.designs changed)
        ∧ (∀ d ∈ all, ∀ givenDesign, (after steps).design? givenDesign = some d →
          ((after steps).step (.ask (.eventAt givenDesign given))).1
            = .answer (.event (eventOf d)))
        ∧ ((after (steps ++ [.newCache cache])).step (.eventsFor cache given)).1
          = .answer (.events events)
        ∧ changed = all.filter (fun d => (eventOf d).isSome)
        ∧ changed = all.filter (fun d => events.keys.contains d.id)
        ∧ changed.Pairwise (fun d e => d.id < e.id)
        ∧ (∃ named, CommittedWith steps v named)
        ∧ (∀ designId, designId ∈ events.keys ↔ ∃ w named,
          CommittedWith steps w named ∧ w.id = v.id ∧ designId ∈ named.map Prod.fst)
        ∧ (IdsSuffice steps → ∀ named, CommittedWith steps v named →
          ∀ designId, designId ∈ events.keys ↔ designId ∈ named.map Prod.fst) := by
  have hmeant := version?_of_means hv hgiven
  have hall : ((after steps).step (.ask (.designsOfIssue v.issueId))).1
      = .answer (.designs ((after steps).store.tables.designsOfIssue v.issueId)) := by
    rw [answer_ask harmed rfl rfl]
  have hevents : ((after (steps ++ [.newCache cache])).step (.eventsFor cache given)).1
      = .answer (.events ((after steps).store.tables.eventsOfVersion v.id)) := by
    rw [after_append, run_cons, run_nil]
    exact outcome_eventsFor_of_new harmed hmeant cache
  refine ⟨_, _, fun d => ((after steps).store.tables.eventsOn v.id d.id).head?, _,
    hall, answer_changedDesigns harmed hmeant, fun d hd givenDesign hdesign => ?_, hevents, ?_, ?_,
    (keyed_after steps).pairwise_changedDesigns v, exists_committedWith hv,
    fun designId => mem_keys_after_iff, fun hids named => mem_keys_of_committedWith hids⟩
  · exact outcome_eventAt harmed hdesign hmeant (Tables.mem_designsOfIssue.1 hd).2
  · exact Tables.changedDesigns_eq_filter_of_iff fun d => List.isSome_head?
  · refine Tables.changedDesigns_eq_filter_of_iff fun d => ?_
    rw [List.contains_iff_mem, Tables.mem_keys_eventsOfVersion]

/-- A version that acts on two designs of its issue, on one of them twice, on a design of another
issue and on one that is not stored, and leaves one design of its issue alone. -/
def actsAcross : List Step :=
  [.insertIssue 7 "a", .insertIssue 7 "b", .insertDesign (.stored 1) "x",
    .insertDesign (.stored 1) "y", .insertDesign (.stored 1) "z", .insertDesign (.stored 2) "x",
    .commitVersion (.stored 1)
      [(5, .creation), (6, .creation), (3, .creation), (9, .modification), (5, .deletion)] default]

/-- The version that is committed there. -/
def acrossVersion : Version :=
  ⟨7, 1, Version.computeSha 1 none [⟨5, 7, .creation⟩, ⟨6, 7, .creation⟩, ⟨3, 7, .creation⟩,
    ⟨9, 7, .modification⟩, ⟨5, 7, .deletion⟩], none, default⟩

/-- Of the designs of its issue the version changed those that it named, and a new cache has an
event for what it named elsewhere or nowhere, too. -/
theorem changes_agree_actsAcross :
    ∃ events, ((after (actsAcross ++ [.newCache "c"])).step (.eventsFor "c" (.stored 7))).1
        = .answer (.events events)
      ∧ (∀ designId, designId ∈ events.keys ↔ designId ∈ [5, 6, 3, 9, 5])
      ∧ ((after actsAcross).step (.ask (.changedDesigns (.stored 7)))).1
        = .answer (.designs ([⟨3, 7, 1, "x"⟩, ⟨4, 7, 1, "y"⟩, ⟨5, 7, 1, "z"⟩].filter fun d =>
          events.keys.contains d.id)) := by
  have hids : IdsSuffice actsAcross := idsSuffice_of_countP (by decide)
  have harmed : (after actsAcross).store.armed = none := rfl
  have hv : (after actsAcross).store.tables.versions.get? acrossVersion.id
      = some acrossVersion := rfl
  obtain ⟨all, changed, _, events, hall, hchanged, -, hevents, -, hkeys, -, -, -, hnamed⟩ :=
    changes_agree harmed hv .stored "c"
  have hdesigns : ((after actsAcross).step (.ask (.designsOfIssue 1))).1
      = .answer (.designs [⟨3, 7, 1, "x"⟩, ⟨4, 7, 1, "y"⟩, ⟨5, 7, 1, "z"⟩]) := rfl
  cases hall.symm.trans hdesigns
  rw [hkeys] at hchanged
  exact ⟨events, hevents, hnamed hids _ ⟨actsAcross.take 6, _, [], rfl, .stored 1, _, rfl, rfl⟩,
    hchanged⟩

end DesignHistory.Session
