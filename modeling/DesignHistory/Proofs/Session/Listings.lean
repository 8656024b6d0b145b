import DesignHistory.Proofs.Session.Issues
import DesignHistory.Proofs.Session.Records
import DesignHistory.Proofs.Store.Evolution

/-!
# Listings of versions

The versions of an issue are listed from the newest one to the first one, and a limit cuts off the
front of the list.  What is listed is what was committed, in reverse, whatever was committed to
other issues in between.  A later commit adds to the front, where an earlier limit cuts it off
again.

## Main definitions

* `Session.committed`: the versions of an issue that a run commits, in order.

## Main statements

* `Session.versionsOfIssue_after`: the versions of an issue are those that were committed to it.
* `Tables.filter_isAtOrBefore`, `Session.answer_versionsUpTo`: a limit leaves the end of the list.
* `Session.listings_are_histories`: all listings of an issue, at one moment and later.
-/

namespace DesignHistory

/-- If everything behind something selected is selected, the selected part is the end of the
list. -/
theorem filter_eq_dropWhile {α : Type} {p : α → Bool} {l : List α}
    (h : l.Pairwise fun a b => p a = true → p b = true) :
    l.filter p = l.dropWhile fun a => !p a := by
  induction l with
  | nil => rfl
  | cons a rest ih =>
    obtain ⟨hbehind, hrest⟩ := List.pairwise_cons.1 h
    cases ha : p a with
    | false =>
      rw [List.filter_cons_of_neg (by rw [ha]; exact Bool.false_ne_true),
        List.dropWhile_cons_of_pos (by rw [ha]; rfl), ih hrest]
    | true =>
      rw [List.filter_cons_of_pos ha, List.dropWhile_cons_of_neg (by rw [ha]; decide),
        List.filter_eq_self.2 fun b hb => hbehind b hb ha]

/-! ### Limits -/

namespace Tables

variable {t : Tables} {limit : Version}

/-- The versions of an issue up to a limit are listed from the first one on that is not later. -/
theorem filter_isAtOrBefore (ht : t.Keyed) (issueId : IssueId) (limit : Version) :
    (t.versionsOfIssue issueId).filter (fun v => v.isAtOrBefore limit)
      = (t.versionsOfIssue issueId).dropWhile fun v => limit.id < v.id := by
  rw [filter_eq_dropWhile]
  · congr 1
    funext v
    rw [Version.isAtOrBefore, ← decide_not, decide_eq_decide]
    exact Int64.not_le
  · refine (ht.pairwise_versionsOfIssue issueId).imp fun {v w} hlater hle => ?_
    exact decide_eq_true (Int64.le_trans (Int64.le_of_lt hlater) (of_decide_eq_true hle))

/-- Among versions with decreasing ids a limit that is listed comes first. -/
theorem head?_dropWhile {vs : List Version} (hvs : vs.Pairwise fun v w => w.id < v.id)
    (hlimit : limit ∈ vs) :
    (vs.dropWhile fun v => decide (limit.id < v.id)).head? = some limit := by
  obtain ⟨newer, older, rfl⟩ := List.append_of_mem hlimit
  obtain ⟨-, -, hnewer⟩ := List.pairwise_append.1 hvs
  rw [List.dropWhile_append_of_pos fun v hv =>
      decide_eq_true (hnewer v hv limit List.mem_cons_self),
    List.dropWhile_cons_of_neg (by simp), List.head?_cons]

end Tables

namespace Session

variable {s : Session} {steps later : List Step} {limit : Version} {given : Given Version}

/-- Up to a limit the versions of an issue are answered from the first one on that is not later. -/
theorem answer_versionsUpTo (hs : s.store.tables.Keyed) (harmed : s.store.armed = none)
    (hlimit : s.version? given = some limit) (issueId : IssueId) :
    (s.step (.ask (.versionsUpTo issueId (some given)))).1
      = .answer (.versions
        ((s.store.tables.versionsOfIssue issueId).dropWhile fun v => limit.id < v.id)) := by
  have hresolved : (Question.versionsUpTo issueId (some given)).resolve? s.design? s.version?
      = some (.versionsUpTo issueId (some limit)) := by
    rw [Question.resolve?, hlimit, Option.map_some]
  rw [answer_ask harmed hresolved rfl, ← Tables.filter_isAtOrBefore hs]

/-! ### What was committed -/

/-- The versions of an issue that a run commits, in order.  It is read from the outcomes of the
steps, as a caller sees them. -/
def committed (s : Session) (steps : List Step) (issueId : IssueId) : List Version :=
  ((s.created steps).filterMap Record.version?).filter fun v => v.issueId == issueId

/-- The versions of an issue are those that were committed to it, the last one first.  Nothing is
ever taken out of the table of versions. -/
theorem versionsOfIssue_after (hids : IdsSuffice steps) (issueId : IssueId) :
    (after steps).store.tables.versionsOfIssue issueId
      = (empty.committed steps issueId).reverse := by
  rw [Tables.versionsOfIssue, (represents_after hids).versions, List.filter_reverse]
  rfl

/-- What two runs commit to an issue, one after the other. -/
theorem committed_append (issueId : IssueId) :
    empty.committed (steps ++ later) issueId
      = empty.committed steps issueId ++ (after steps).committed later issueId := by
  rw [committed, created_append, List.filterMap_append, List.filter_append]
  rfl

/-- Later on, the versions that were committed meanwhile are listed first. -/
theorem versionsOfIssue_append (hids : IdsSuffice (steps ++ later)) (issueId : IssueId) :
    (after (steps ++ later)).store.tables.versionsOfIssue issueId
      = ((after steps).committed later issueId).reverse
        ++ (after steps).store.tables.versionsOfIssue issueId := by
  rw [versionsOfIssue_after hids, versionsOfIssue_after (along_append.1 hids).1, committed_append,
    List.reverse_append]

/-- What is committed later has ids above those of all versions that are there. -/
theorem id_lt_of_mem_committed (hids : IdsSuffice (steps ++ later)) {issueId : IssueId}
    {v w : Version} (hv : v ∈ (after steps).store.tables.versions.values)
    (hw : w ∈ (after steps).committed later issueId) : v.id < w.id := by
  have hsteps := (along_append.1 hids).1
  obtain ⟨more, hmore, habove⟩ := (continues_after hids).tables.versions
  rw [(represents_after hids).versions, (represents_after hsteps).versions, created_append,
    List.filterMap_append, List.append_cancel_left_eq] at hmore
  have hstored := (keyed_after steps).mem_versions_iff.1 hv
  have hlast := (bounded_after hsteps).version hstored
  refine Int64.lt_of_le_of_lt hlast (habove w ?_)
  rw [← hmore]
  exact (List.mem_filter.1 hw).1

/-- **A listing of versions is the history of its issue.** In every session without an armed
failure, the store and the resolver list for an issue the versions that were committed to it, the
last one first: every stored version of the issue, with decreasing ids.  Up to a limit, stored or
not and of whatever issue, the list begins at the first version that is not later, and this is the
limit itself if the limit is in the list.  At every later moment the versions that were committed
meanwhile stand in front; their ids are above those of all versions that were there, and a limit
below them cuts them off again. -/
theorem listings_are_histories (hids : IdsSuffice steps)
    (harmed : (after steps).store.armed = none) (issueId : IssueId) :
    ∃ vs, ((after steps).step (.ask (.versionsUpTo issueId none))).1 = .answer (.versions vs)
      ∧ ((after steps).step (.ask (.versionsOfIssue issueId))).1 = .answer (.versions vs)
      ∧ vs = (empty.committed steps issueId).reverse
      ∧ (∀ v, v ∈ vs ↔
        (after steps).store.tables.versions.get? v.id = some v ∧ v.issueId = issueId)
      ∧ vs.Pairwise (fun v w => w.id < v.id)
      ∧ (∀ given limit, (after steps).version? given = some limit →
        ((after steps).step (.ask (.versionsUpTo issueId (some given)))).1
            = .answer (.versions (vs.dropWhile fun v => limit.id < v.id))
          ∧ (limit ∈ vs →
            (vs.dropWhile fun v => decide (limit.id < v.id)).head? = some limit))
      ∧ ∀ later, IdsSuffice (steps ++ later) → (after (steps ++ later)).store.armed = none →
        ∃ newer, newer = ((after steps).committed later issueId).reverse
          ∧ ((after (steps ++ later)).step (.ask (.versionsUpTo issueId none))).1
            = .answer (.versions (newer ++ vs))
          ∧ (∀ w ∈ newer, ∀ v ∈ (after steps).store.tables.versions.values, v.id < w.id)
          ∧ ∀ given limit, (after steps).version? given = some limit →
            (∀ w ∈ newer, limit.id < w.id) →
            ((after (steps ++ later)).step (.ask (.versionsUpTo issueId (some given)))).1
              = ((after steps).step (.ask (.versionsUpTo issueId (some given)))).1 := by
  have hkeyed := keyed_after steps
  have hpairwise := hkeyed.pairwise_versionsOfIssue issueId
  refine ⟨(after steps).store.tables.versionsOfIssue issueId, ?_, ?_,
    versionsOfIssue_after hids issueId, fun v => ?_, hpairwise, fun given limit hlimit => ?_,
    fun later hids' harmed' => ?_⟩
  · rw [answer_ask harmed rfl rfl]
  · rw [answer_ask harmed rfl rfl]
  · rw [Tables.mem_versionsOfIssue, hkeyed.mem_versions_iff]
  · exact ⟨answer_versionsUpTo hkeyed harmed hlimit issueId, Tables.head?_dropWhile hpairwise⟩
  · refine ⟨_, rfl, ?_, fun w hw v hv => ?_, fun given limit hlimit habove => ?_⟩
    · rw [answer_ask harmed' rfl rfl, ← versionsOfIssue_append hids']
    · exact id_lt_of_mem_committed hids' hv (List.mem_reverse.1 hw)
    · have hlimit' : (after (steps ++ later)).version? given = some limit :=
        Given.resolve?_of_le (keeps_after hids').version hlimit
      rw [answer_versionsUpTo (keyed_after _) harmed' hlimit', versionsOfIssue_append hids',
        List.dropWhile_append_of_pos fun w hw => decide_eq_true (habove w hw),
        answer_versionsUpTo hkeyed harmed hlimit]

/-- Two issues, and versions of them in turn. -/
def takingTurns : List Step :=
  [.insertIssue 7 "a", .insertIssue 7 "b", .commitVersion (.stored 1) [] default,
    .commitVersion (.stored 2) [] default, .commitVersion (.stored 1) [] default]

/-- The first version of the first issue. -/
def firstOfTurns : Version := ⟨3, 1, Version.computeSha 1 none [], none, default⟩

/-- The version of the second issue, which is committed next. -/
def secondOfTurns : Version := ⟨4, 2, Version.computeSha 2 none [], none, default⟩

/-- Up to the version of the other issue only the first version is listed, also when one more has
been committed. -/
theorem listings_are_histories_takingTurns :
    ((after takingTurns).step (.ask (.versionsUpTo 1 (some (.stored 4))))).1
        = .answer (.versions [firstOfTurns])
      ∧ ((after (takingTurns ++ [.commitVersion (.stored 1) [] default])).step
        (.ask (.versionsUpTo 1 (some (.stored 4))))).1 = .answer (.versions [firstOfTurns]) := by
  have hids : IdsSuffice takingTurns := idsSuffice_of_countP (by decide)
  have hids' : IdsSuffice (takingTurns ++ [.commitVersion (.stored 1) [] default]) :=
    idsSuffice_of_countP (by decide)
  obtain ⟨vs, hvs, -, -, -, -, hlimited, hlater⟩ := listings_are_histories hids rfl 1
  have hall : ((after takingTurns).step (.ask (.versionsUpTo 1 none))).1
      = .answer (.versions [⟨5, 1, Version.computeSha 1 (some firstOfTurns.sha) [], none, default⟩,
        firstOfTurns]) := rfl
  cases hvs.symm.trans hall
  obtain ⟨newer, rfl, -, -, hkept⟩ := hlater _ hids' rfl
  have hlimit : (after takingTurns).version? (.stored 4) = some secondOfTurns := rfl
  have hupTo := (hlimited (.stored 4) _ hlimit).1
  exact ⟨hupTo, (hkept (.stored 4) _ hlimit (by decide)).trans hupTo⟩

end Session

end DesignHistory
