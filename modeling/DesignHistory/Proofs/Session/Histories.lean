import DesignHistory.Proofs.Store.Chain

/-!
# The histories of a session

Whatever is committed in a session, to whatever issues and in whatever order, the versions
of each issue make a chain of hashes.  Anyone can check the chain later from the answers of
the store.  It also tells the versions apart, those of one issue and those of different
ones, unless two different texts that were hashed in the session have one hash.

## Main definitions

* `Session.hashed`: the texts that a run hashes.

## Main statements

* `Session.chainedIn_after`: the versions of every issue are chained in every session.
* `Session.history_chained`: the hashes of an issue can be checked at every later moment.
* `Session.sha_identifies_version`: a version is told apart and found by its hash.
-/

namespace DesignHistory.Session

/-! ### Chains along a run -/

/-- The texts that a run hashes, one for each version that is committed.  A collision can only be
one among these, and they are all that is said about the hash function. -/
def hashed (s : Session) : List Step → List String
  | [] => []
  | step :: rest => ((s.write? step).bind s.store.hashed?).toList ++ (s.step step).2.hashed rest

/-- A step keeps the versions of every issue chained. -/
theorem chainedIn_step {s : Session} {step : Step} {texts : List String} (hid : s.FindsId step)
    (hs : s.store.Bounded) (h : s.store.tables.ChainedIn texts) :
    (s.step step).2.store.tables.ChainedIn
      (texts ++ ((s.write? step).bind s.store.hashed?).toList) := by
  rw [tables_step]
  cases hw : s.write? step with
  | none =>
    rw [written_of_none hw, Option.bind_none, Option.toList_none, List.append_nil]
    exact h
  | some w =>
    rw [written_of_some hw]
    exact Store.chainedIn_write hs (hid (by rw [hw]; rfl)) h w

/-- A run keeps the versions of every issue chained. -/
theorem chainedIn_run {s : Session} {steps : List Step} {texts : List String}
    (hids : Along FindsId s steps) (hs : s.store.Bounded) (h : s.store.tables.ChainedIn texts) :
    (s.run steps).2.store.tables.ChainedIn (texts ++ s.hashed steps) := by
  induction steps generalizing s texts with
  | nil =>
    rw [hashed, List.append_nil]
    exact h
  | cons step rest ih =>
    obtain ⟨hid, hrest⟩ := hids
    rw [hashed, ← List.append_assoc]
    exact ih hrest (bounded_step hid hs) (chainedIn_step hid hs h)

/-- The versions of every issue are chained in every session. -/
theorem chainedIn_after {steps : List Step} (hids : IdsSuffice steps) :
    (after steps).store.tables.ChainedIn (empty.hashed steps) := by
  have hempty : empty.store.tables.ChainedIn [] := fun _ => trivial
  exact chainedIn_run hids bounded_empty hempty

/-! ### Checking a history -/

/-- **The history of an issue is a chain of hashes.** The versions of an issue, as they are listed
at one moment of a session, have the hashes that are computed from the version before, if there is
one, and from their actions, as they are listed at any later moment. -/
theorem history_chained {steps later : List Step} (hids : IdsSuffice (steps ++ later))
    (harmed : (after steps).store.armed = none)
    (harmed' : (after (steps ++ later)).store.armed = none) (issueId : IssueId) :
    ∃ vs, ((after steps).step (.ask (.versionsUpTo issueId none))).1 = .answer (.versions vs)
      ∧ ∀ newer v older, vs = newer ++ v :: older →
        ∃ actions, ((after (steps ++ later)).step (.ask (.actionsOfVersion v.id))).1
            = .answer (.actions actions)
          ∧ v.sha = Version.computeSha issueId (older.head?.map fun w => w.sha) actions := by
  obtain ⟨hsteps, -⟩ := along_append.1 hids
  have hbounded := bounded_after hsteps
  have hchain := chainedIn_after hsteps issueId
  have hversions : ((after steps).step (.ask (.versionsUpTo issueId none))).1
      = .answer (.versions ((after steps).store.tables.versionsOfIssue issueId)) := by
    rw [answer_ask harmed rfl rfl]
  have hactions : ∀ v : Version,
      ((after (steps ++ later)).step (.ask (.actionsOfVersion v.id))).1
        = .answer (.actions ((after (steps ++ later)).store.tables.actionsOfVersion v.id)) := by
    intro v
    rw [answer_ask harmed' rfl rfl]
  refine ⟨_, hversions, fun newer v older hvs => ⟨_, hactions v, ?_⟩⟩
  have hmem : v ∈ (after steps).store.tables.versionsOfIssue issueId := by
    rw [hvs]
    exact List.mem_append_right _ List.mem_cons_self
  have hstored := hbounded.keyed.mem_versions_iff.1 (Tables.mem_versionsOfIssue.1 hmem).1
  -- what was recorded in between has ids above the version, so its actions are still the same
  rw [(continues_after hids).tables.actionsOfVersion_eq (hbounded.version hstored)]
  rw [hvs] at hchain
  obtain ⟨⟨-, hsha⟩, -⟩ := hchain.of_append
  exact hsha

/-- Two issues, and versions of them in turn; the first one records two events for one
design, and one for a design of the other issue. -/
def interleaved : List Step :=
  [.insertIssue 7 "a", .insertIssue 7 "b", .insertDesign (.stored 1) "c",
    .insertDesign (.stored 2) "d",
    .commitVersion (.stored 1) [(4, .creation), (3, .creation), (3, .modification)] default,
    .commitVersion (.stored 2) [] default]

/-- The hash of the first version is computed again from its actions in the order of the
designs, after the next version of the issue. -/
theorem history_chained_interleaved :
    ((after (interleaved ++ [.commitVersion (.stored 1) [] default])).step
        (.ask (.actionsOfVersion 5))).1
      = .answer (.actions [⟨3, 5, .creation⟩, ⟨3, 5, .modification⟩, ⟨4, 5, .creation⟩])
    ∧ Version.computeSha 1 none [⟨4, 5, .creation⟩, ⟨3, 5, .creation⟩, ⟨3, 5, .modification⟩]
      = Version.computeSha 1 none
        [⟨3, 5, .creation⟩, ⟨3, 5, .modification⟩, ⟨4, 5, .creation⟩] := by
  have hids : IdsSuffice (interleaved ++ [.commitVersion (.stored 1) [] default]) :=
    idsSuffice_of_countP (by decide)
  obtain ⟨vs, hvs, hchain⟩ := history_chained hids rfl rfl 1
  have hversions : ((after interleaved).step (.ask (.versionsUpTo 1 none))).1
      = .answer (.versions [⟨5, 1, Version.computeSha 1 none
          [⟨4, 5, .creation⟩, ⟨3, 5, .creation⟩, ⟨3, 5, .modification⟩], none, default⟩]) := rfl
  cases hvs.symm.trans hversions
  obtain ⟨actions, hactions, hsha⟩ := hchain [] _ [] rfl
  have hanswer : ((after (interleaved ++ [.commitVersion (.stored 1) [] default])).step
        (.ask (.actionsOfVersion 5))).1
      = .answer (.actions [⟨3, 5, .creation⟩, ⟨3, 5, .modification⟩, ⟨4, 5, .creation⟩]) := rfl
  cases hactions.symm.trans hanswer
  exact ⟨hanswer, hsha⟩

/-! ### Finding a version -/

/-- **A hash identifies a version, or texts collide.** In a session with fewer steps that write than
there are ids, two versions have two hashes unless two texts that were hashed collide; and if none
do, each version that was committed is the one that is found by its hash. -/
theorem sha_identifies_version {steps : List Step}
    (hfew : steps.countP Step.isFixture < Int64.maxValue.toNatClampNeg) :
    (∀ v ∈ (after steps).store.tables.versions.values,
        ∀ w ∈ (after steps).store.tables.versions.values,
          v ≠ w → v.sha ≠ w.sha ∨ Sha256.Collision (empty.hashed steps))
      ∧ (¬Sha256.Collision (empty.hashed steps) → (after steps).store.armed = none →
        ∀ before issue events createdAt later v,
          steps = before ++ .commitVersion issue events createdAt :: later →
          ((after before).step (.commitVersion issue events createdAt)).1
              = .answer (.version (some v)) →
          ((after steps).step (.ask (.versionBySha v.issueId v.sha))).1
            = .answer (.version (some v))) := by
  have hids : IdsSuffice steps := idsSuffice_of_countP (Nat.le_of_lt hfew)
  have hchained := chainedIn_after hids
  refine ⟨fun v hv w hw hne => ?_, fun hfree harmed => ?_⟩
  · by_cases hcollision : Sha256.Collision (empty.hashed steps)
    · exact .inr hcollision
    · exact .inl fun hsha => hne (hchained.eq_of_sha_eq hcollision hv hw hsha)
  · intro before issue events createdAt later v hsteps hcommit
    -- the search stops at some version of that hash, and there is only this one
    have hstored : v ∈ (after steps).store.tables.versions.values := by
      rw [hsteps, List.append_cons] at hids ⊢
      exact (keyed_after _).mem_versions_iff.2 (stored_after_commit hids hcommit)
    have honly : ∀ w ∈ (after steps).store.tables.versions.values, w.sha = v.sha → w = v :=
      fun w hw hsha => hchained.eq_of_sha_eq hfree hw hstored hsha
    rw [answer_ask harmed rfl rfl]
    exact congrArg (fun found => Outcome.answer (.version found))
      (Tables.findVersionBySha_eq_some hstored honly)

/-- Two versions of an issue that record nothing. -/
def recordingNothing : List Step :=
  [.insertIssue 7 "a", .commitVersion (.stored 1) [] default,
    .commitVersion (.stored 1) [] default]

/-- The texts of two versions that record nothing do not collide, so the versions have two
hashes, and the second one is not taken for the first one. -/
theorem sha_identifies_version_recording_nothing :
    Version.computeSha 1 none []
        ≠ Version.computeSha 1 (some (Version.computeSha 1 none [])) []
      ∧ ((after recordingNothing).step (.ask (.versionBySha 1
          (Version.computeSha 1 (some (Version.computeSha 1 none [])) [])))).1
        = .answer (.version (some ⟨3, 1,
            Version.computeSha 1 (some (Version.computeSha 1 none [])) [], none, default⟩)) := by
  have hfree : ¬Sha256.Collision (empty.hashed recordingNothing) := by decide +kernel
  have hfew : recordingNothing.countP Step.isFixture < Int64.maxValue.toNatClampNeg := by decide
  obtain ⟨hdiffer, hfound⟩ := sha_identifies_version hfew
  refine ⟨?_, hfound hfree rfl [.insertIssue 7 "a", .commitVersion (.stored 1) [] default]
    (.stored 1) [] default [] _ rfl rfl⟩
  have hids : (⟨2, 1, Version.computeSha 1 none [], none, default⟩ : Version)
      ≠ ⟨3, 1, Version.computeSha 1 (some (Version.computeSha 1 none [])) [], none, default⟩ :=
    fun h => absurd (congrArg Version.id h) (by decide)
  exact (hdiffer _ List.mem_cons_self _ (List.mem_cons_of_mem _ List.mem_cons_self)
    hids).resolve_right hfree

end DesignHistory.Session
