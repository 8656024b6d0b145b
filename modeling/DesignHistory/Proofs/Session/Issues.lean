import DesignHistory.Proofs.Store.Issues
import DesignHistory.Proofs.Version.Content

/-!
# Issues beside each other

Whatever is done on one issue, the other issues do not see it.  The run lemma carries a
relation between two moments of a session, that they have the same on record about an issue,
and every question that concerns the issue reads no more than this.

## Main definitions

* `Inquiry.ReadsAlike`: an inquiry reads the same from two tables.
* `Question.Concerns`, `Session.Concerns`: a question is about one issue.
* `Session.WorksOn`: a step writes, and only on one issue.

## Main statements

* `Question.readsAlike_of_concerns`: what a question about an issue reads.
* `Session.sameAbout_run`: work on one issue leaves the records of the others.
* `Session.issues_do_not_interfere`: answers and commits beside work on another issue.
-/

namespace DesignHistory

/-! ### Inquiries that read alike -/

namespace Inquiry

variable {α β : Type} {t t' : Tables} {q : Inquiry α}

/-- An inquiry reads the same from two tables.  An inquiry that is settled reads nothing. -/
def ReadsAlike (t t' : Tables) : Inquiry α → Prop
  | settled _ => True
  | asks read => read t' = read t

theorem ReadsAlike.map (h : q.ReadsAlike t t') (f : α → β) : (q.map f).ReadsAlike t t' := by
  cases q with
  | settled result => trivial
  | asks read => exact congrArg f h

/-- An inquiry that reads the same from two stores has the same result, the armed failure
included. -/
theorem ReadsAlike.result_run {s s' : Store} (h : q.ReadsAlike s.tables s'.tables)
    (harmed : s'.armed = s.armed) : (q.run s').1 = (q.run s).1 := by
  cases q with
  | settled result => rfl
  | asks read =>
    have hread : read s'.tables = read s.tables := h
    simp only [run, Store.query, harmed]
    cases s.armed with
    | some message => rfl
    | none => rw [hread]

end Inquiry

/-- A selection that is restricted to an issue reads alike. -/
theorem Selection.readsAlike_records {t t' : Tables} {issueId : IssueId}
    (h : t.SameAbout issueId t') {s : Selection} (hs : s.issueId = some issueId) :
    s.records.ReadsAlike t t' := by
  unfold records
  split
  · trivial
  · exact h.select_eq hs

/-- A selection that is restricted to an issue reads alike. -/
theorem Selection.readsAlike_count {t t' : Tables} {issueId : IssueId}
    (h : t.SameAbout issueId t') {s : Selection} (hs : s.issueId = some issueId) :
    s.count.ReadsAlike t t' := by
  rw [count_eq_map_records]
  exact (readsAlike_records h hs).map List.length

/-! ### Questions about an issue -/

/-- What is meant among some records is meant among more of them. -/
theorem Given.resolve?_of_le {α : Type} {stored? stored?' : Int64 → Option α}
    (hstored : ∀ {id r}, stored? id = some r → stored?' id = some r) {given : Given α} {r : α}
    (h : given.resolve? stored? = some r) : given.resolve? stored?' = some r := by
  cases given with
  | stored id => exact hstored h
  | literal value => exact h

namespace Question

/-- The questions about one issue: by the issue itself, or by a version of it, stored or
not. -/
def Concerns (issueId : IssueId) : Question Design Version → Prop
  | .findDesign id _ | .findDesignByFilename id _ | .designsOfIssue id | .versionsOfIssue id
  | .versionBySha id _ | .byIdentityInIssue id _ | .designLookup id _ | .versionsUpTo id _ =>
    id = issueId
  | .visibleDesigns v _ | .changedDesigns v | .allForVersion v _ | .oneForVersion v _ =>
    v.issueId = issueId
  | .countAlways chain | .loadAlways chain | .count chain | .isEmpty chain | .records chain =>
    (Selection.ofChain chain).issueId = some issueId
  | _ => False

variable {t t' : Tables} {issueId : IssueId}

/-- A question about an issue reads only what is on record about the issue.  It is shown question by
question, and everything else follows from it. -/
theorem readsAlike_of_concerns (h : t.SameAbout issueId t') (ht : t.Keyed) (ht' : t'.Keyed)
    {question : Question Design Version} (hquestion : question.Concerns issueId) :
    question.inquiry.ReadsAlike t t' := by
  have hvisible : ∀ {v : Version}, v.issueId = issueId → ∀ filter,
      (Resolution.allForVersion v filter).ReadsAlike t t' := by
    rintro v rfl filter
    exact congrArg (List.map _) (h.visibleDesigns_eq filter)
  cases question with
  | findDesign id designId =>
    obtain rfl := hquestion
    exact congrArg Answer.design (h.findDesign_eq ht ht' designId)
  | findDesignByFilename id filename =>
    obtain rfl := hquestion
    exact congrArg Answer.design (h.findDesignByFilename_eq filename)
  | designsOfIssue id =>
    obtain rfl := hquestion
    exact congrArg Answer.designs h.designs
  | versionsOfIssue id =>
    obtain rfl := hquestion
    exact congrArg Answer.versions h.versions
  | versionBySha id sha =>
    obtain rfl := hquestion
    exact congrArg Answer.version (h.findVersionBySha_eq sha)
  | visibleDesigns v filter =>
    obtain rfl := hquestion
    exact congrArg Answer.designs (h.visibleDesigns_eq filter)
  | changedDesigns v =>
    obtain rfl := hquestion
    exact congrArg Answer.designs h.changedDesigns_eq
  | countAlways chain =>
    exact congrArg (fun l => Answer.number (List.length l)) (h.select_eq hquestion)
  | loadAlways chain => exact congrArg Answer.pinnedList (h.select_eq hquestion)
  | count chain => exact (Selection.readsAlike_count h hquestion).map _
  | isEmpty chain => exact ((Selection.readsAlike_count h hquestion).map _).map _
  | records chain => exact (Selection.readsAlike_records h hquestion).map _
  | byIdentityInIssue id identity =>
    obtain rfl := hquestion
    refine Inquiry.ReadsAlike.map ?_ _
    unfold Resolution.byIdentityInIssue
    split
    · exact (Selection.readsAlike_records h rfl).map _
    · trivial
  | allForVersion v filter => exact (hvisible hquestion filter).map _
  | oneForVersion v lookup =>
    refine Inquiry.ReadsAlike.map ?_ _
    unfold Resolution.oneForVersion
    split
    · trivial
    · split
      · trivial
      · split
        · exact (Selection.readsAlike_records h (congrArg some hquestion)).map _
        · trivial
    · exact (hvisible hquestion _).map _
  | designLookup id lookup =>
    obtain rfl := hquestion
    refine Inquiry.ReadsAlike.map ?_ _
    unfold Resolution.design
    split
    · trivial
    · exact h.findDesign_eq ht ht' _
    · exact h.findDesignByFilename_eq _
  | versionsUpTo id limit =>
    obtain rfl := hquestion
    cases limit with
    | none => exact congrArg Answer.versions h.versions
    | some limit => exact congrArg (fun l => Answer.versions (List.filter _ l)) h.versions
  | _ => exact hquestion.elim

/-- What was looked up among some records is looked up among more of them.  It says that a question
means the same after work elsewhere. -/
theorem resolve?_of_le {δ ν δ' ν' : Type} {design? design?' : δ → Option δ'}
    {version? version?' : ν → Option ν'} (hdesign : ∀ {given d}, design? given = some d →
      design?' given = some d) (hversion : ∀ {given v}, version? given = some v →
      version?' given = some v) {question : Question δ ν} {resolved : Question δ' ν'}
    (h : question.resolve? design? version? = some resolved) :
    question.resolve? design?' version?' = some resolved := by
  cases question with
  | visibleDesigns given filter | changedDesigns given | allForVersion given filter
  | oneForVersion given lookup =>
    obtain ⟨v, hv, hresolved⟩ := Option.map_eq_some_iff.1 h
    exact Option.map_eq_some_iff.2 ⟨v, hversion hv, hresolved⟩
  | pair givenDesign givenVersion | eventAt givenDesign givenVersion =>
    obtain ⟨d, hd, hrest⟩ := Option.bind_eq_some_iff.1 h
    obtain ⟨v, hv, hresolved⟩ := Option.map_eq_some_iff.1 hrest
    exact Option.bind_eq_some_iff.2
      ⟨d, hdesign hd, Option.map_eq_some_iff.2 ⟨v, hversion hv, hresolved⟩⟩
  | versionsUpTo issueId limit =>
    cases limit with
    | none => exact h
    | some given =>
      obtain ⟨v, hv, hresolved⟩ := Option.map_eq_some_iff.1 h
      exact Option.map_eq_some_iff.2 ⟨v, hversion hv, hresolved⟩
  | _ => exact h

end Question

/-! ### Work on an issue -/

namespace Session

/-- A step is one of those that write, and what it writes is on one issue.  Work consists of such
steps only; what is asked meanwhile would leave the tables as they are. -/
def WorksOn (issueId : IssueId) (s : Session) (step : Step) : Prop :=
  step.isFixture = true ∧ ∀ w ∈ s.write? step, s.store.WritesOn issueId w

instance (issueId : IssueId) (s : Session) (step : Step) : Decidable (s.WorksOn issueId step) :=
  inferInstanceAs (Decidable (_ = true ∧ ∀ w ∈ s.write? step, s.store.WritesOn issueId w))

/-- A question whose designs and versions are known is about one issue. -/
def Concerns (s : Session) (issueId : IssueId)
    (question : Question (Given Design) (Given Version)) : Prop :=
  ∃ resolved, question.resolve? s.design? s.version? = some resolved ∧ resolved.Concerns issueId

/-- A session has the same on record about an issue as another one, under the same ids, and the same
failure is armed in it.  The counter of ids and that of queries may differ. -/
structure SameAbout (issueId : IssueId) (s s' : Session) : Prop where
  keyed : s'.store.tables.Keyed
  records : s.store.tables.SameAbout issueId s'.store.tables
  keeps : s.store.tables.Keeps s'.store.tables
  armed : s'.store.armed = s.store.armed

variable {s s' : Session} {a b : IssueId}

/-- A fixture does not touch an armed failure. -/
theorem armed_step_of_isFixture {step : Step} (h : step.isFixture = true) :
    (s.step step).2.store.armed = s.store.armed := by
  cases step with
  | insertIssue projectId title => rfl
  | insertDesign given filename =>
    rw [Session.step]
    split <;> rfl
  | commitVersion given events createdAt =>
    rw [Session.step]
    split <;> rfl
  | _ => cases h

/-- A step of work on one issue leaves the records of every other issue. -/
theorem sameAbout_step (hne : a ≠ b) {step : Step} (hunused : s'.FindsUnused step)
    (hworks : s'.WorksOn a step) (h : s.SameAbout b s') : s.SameAbout b (s'.step step).2 := by
  refine ⟨keyed_step h.keyed step, h.records.trans ?_, h.keeps.trans (keeps_step hunused),
    (armed_step_of_isFixture hworks.1).trans h.armed⟩
  rw [tables_step]
  cases hw : s'.write? step with
  | none => rw [written_of_none hw]; exact .refl _ _
  | some w =>
    rw [written_of_some hw]
    exact Store.sameAbout_write h.keyed (hunused (by rw [hw]; rfl)) hne (hworks.2 w hw)

/-- Work on one issue leaves the records of every other issue. -/
theorem sameAbout_run (hne : a ≠ b) (hkeyed : s.store.tables.Keyed) {steps : List Step}
    (hunused : Along FindsUnused s steps) (hworks : Along (WorksOn a) s steps) :
    s.SameAbout b (s.run steps).2 :=
  run_induction (P := s.SameAbout b)
    (fun _ _ hstep h => sameAbout_step hne hstep.1 hstep.2 h)
    ⟨hkeyed, .refl _ _, .refl _, rfl⟩ (hunused.and hworks)

/-- A question about an issue has the same outcome in two sessions with the same on record
about the issue. -/
theorem SameAbout.outcome_ask (h : s.SameAbout b s') (hkeyed : s.store.tables.Keyed)
    {question : Question (Given Design) (Given Version)} (hquestion : s.Concerns b question) :
    (s'.step (.ask question)).1 = (s.step (.ask question)).1 := by
  obtain ⟨resolved, hresolved, hconcerns⟩ := hquestion
  have hresolved' : question.resolve? s'.design? s'.version? = some resolved :=
    Question.resolve?_of_le (Given.resolve?_of_le h.keeps.design)
      (Given.resolve?_of_le h.keeps.version) hresolved
  rw [Session.outcome_ask hresolved', Session.outcome_ask hresolved,
    (Question.readsAlike_of_concerns h.records hkeyed h.keyed hconcerns).result_run h.armed]

theorem outcome_commitVersion {given : Given Issue} {issue : Issue}
    (hissue : s.issue? given = some issue) (events : List (DesignId × Event))
    (createdAt : Instant) : (s.step (.commitVersion given events createdAt)).1
      = .answer (.version (some (s.store.commitVersion issue events createdAt).1)) := by
  rw [Session.step, hissue]

/-- A commit to an issue makes versions with one hash in two sessions with the same on record
about the issue. -/
theorem SameAbout.sha_commitVersion (h : s.SameAbout b s') {issue : Issue} (hissue : issue.id = b)
    (events : List (DesignId × Event)) (createdAt : Instant) :
    (s'.store.commitVersion issue events createdAt).1.sha
      = (s.store.commitVersion issue events createdAt).1.sha := by
  subst hissue
  show Sha256.hexDigest _ = Sha256.hexDigest _
  rw [h.records.headSha_eq, Version.content_eq_of_version]

/-- **Issues do not interfere.** Work on one issue, in a session in which no id is given out twice,
leaves any other issue alone.  Every question about the other issue has the outcome that it would
have had without the work, and the next commit to it has the same parent, and so the same hash. -/
theorem issues_do_not_interfere {before work : List Step} (hne : a ≠ b)
    (hids : (before ++ work).countP Step.isFixture ≤ 2 ^ 64)
    (hwork : Along (WorksOn a) (after before) work) :
    (∀ question, (after before).Concerns b question →
        ((after (before ++ work)).step (.ask question)).1
          = ((after before).step (.ask question)).1)
      ∧ (after (before ++ work)).store.tables.headSha b = (after before).store.tables.headSha b
      ∧ ∀ given issue events createdAt, (after before).issue? given = some issue →
        issue.id = b → ∃ v v' : Version, v'.sha = v.sha
          ∧ ((after before).step (.commitVersion given events createdAt)).1
            = .answer (.version (some v))
          ∧ ((after (before ++ work)).step (.commitVersion given events createdAt)).1
            = .answer (.version (some v')) := by
  have hkeyed := keyed_after before
  have hsame : (after before).SameAbout b (after (before ++ work)) := by
    rw [after_append]
    exact sameAbout_run hne hkeyed (along_findsUnused_of_countP hids) hwork
  refine ⟨fun _ hquestion => hsame.outcome_ask hkeyed hquestion, hsame.records.headSha_eq, ?_⟩
  intro given issue events createdAt hgiven hissue
  exact ⟨_, _, hsame.sha_commitVersion hissue events createdAt,
    outcome_commitVersion hgiven events createdAt,
    outcome_commitVersion (Given.resolve?_of_le hsame.keeps.issue hgiven) events createdAt⟩

/-- Two issues with a design each, of which the second one is in sight. -/
def twoIssues : List Step :=
  [.insertIssue 7 "a", .insertIssue 7 "b", .insertDesign (.stored 1) "x",
    .insertDesign (.stored 2) "x", .commitVersion (.stored 2) [(4, .creation)] default]

/-- Commits to the first issue, and a further design and issue. -/
def workOnFirst : List Step :=
  [.commitVersion (.stored 1) [(3, .creation)] default, .insertDesign (.stored 1) "y",
    .commitVersion (.stored 1) [(3, .deletion), (7, .creation)] default, .insertIssue 8 "c"]

/-- A deletion on one issue leaves the design of another issue in sight, as of a version that
is not stored and has an id above all others, too. -/
theorem issues_do_not_interfere_past_deletion :
    ((after (twoIssues ++ workOnFirst)).step
        (.ask (.allForVersion (.literal ⟨100, 2, "", none, default⟩) {}))).1
      = .answer (.pinnedList [.of ⟨4, 7, 2, "x"⟩ ⟨100, 2, "", none, default⟩]) := by
  have hwork : Along (WorksOn 1) (after twoIssues) workOnFirst := by decide
  have hanswer := (issues_do_not_interfere (b := 2) (by decide) (by decide) hwork).1
    (.allForVersion (.literal ⟨100, 2, "", none, default⟩) {}) ⟨_, rfl, rfl⟩
  rw [hanswer]
  rfl

end Session

end DesignHistory
