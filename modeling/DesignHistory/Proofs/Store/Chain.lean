import DesignHistory.Proofs.Store.Growth
import DesignHistory.Proofs.Version.Content

/-!
# Chains of versions

A version is hashed when it is committed, from a text that names the version before it by
its hash.  The records say all that the text says, so it can be put together again at any
later time.  Read from the newest version of an issue to its first one, the texts make a
chain, and a chain ends after as many versions as there are: two versions with one hash are
the same number of versions away from the first one of the same issue.

## Main definitions

* `Store.hashed?`: the text that is hashed when something is written.
* `Tables.textOf`: the text of a version, put together from the records.
* `Tables.Chained`: versions that have the hashes of their texts.
* `Tables.ChainedIn`: the versions of every issue are chained, by some known texts.

## Main statements

* `Store.chainedIn_write`: writing keeps the chains, and adds a text to the known ones.
* `Tables.ChainedIn.eq_of_sha_eq`: without a collision two versions have two hashes.
-/

namespace DesignHistory

/-! ### Chains -/

namespace Tables

/-- The text that a version of an issue is hashed from, if the older versions of the issue are the
given ones, the newest first.  The actions are those on record now, so that a chain speaks of what
can still be read. -/
def textOf (t : Tables) (issueId : IssueId) (v : Version) (older : List Version) : String :=
  Version.content issueId (older.head?.map fun w => w.sha) (t.actionsOfVersion v.id)

/-- Versions of an issue, the newest first, that have the hashes of their texts, each one of some
known texts.  That the texts are known is what makes a collision one among them. -/
def Chained (t : Tables) (texts : List String) (issueId : IssueId) : List Version → Prop
  | [] => True
  | v :: older =>
    (t.textOf issueId v older ∈ texts ∧ v.sha = Sha256.hexDigest (t.textOf issueId v older))
      ∧ Chained t texts issueId older

variable {t t' : Tables} {texts texts' : List String} {issueId issueId' : IssueId}

/-- What is chained is chained from each of its versions on. -/
theorem Chained.of_append {newer older : List Version}
    (h : t.Chained texts issueId (newer ++ older)) : t.Chained texts issueId older := by
  induction newer with
  | nil => exact h
  | cons v newer ih => exact ih h.2

/-- A chain stays one while more texts become known and its actions stay. -/
theorem Chained.mono {vs : List Version} (h : t.Chained texts issueId vs)
    (htexts : ∀ text ∈ texts, text ∈ texts')
    (hactions : ∀ v ∈ vs, t'.actionsOfVersion v.id = t.actionsOfVersion v.id) :
    t'.Chained texts' issueId vs := by
  induction vs with
  | nil => trivial
  | cons v older ih =>
    obtain ⟨⟨hmem, hsha⟩, holder⟩ := h
    have htext : t'.textOf issueId v older = t.textOf issueId v older := by
      rw [textOf, hactions v List.mem_cons_self, textOf]
    refine ⟨?_, ih holder fun w hw => hactions w (List.mem_cons_of_mem _ hw)⟩
    rw [htext]
    exact ⟨htexts _ hmem, hsha⟩

/-- The hash that a chain is continued from is one line. -/
theorem Chained.newline_notMem {vs : List Version} (h : t.Chained texts issueId vs) :
    ∀ sha ∈ vs.head?.map fun v => v.sha, '\n' ∉ sha.toList := by
  intro sha hsha
  cases vs with
  | nil => cases hsha
  | cons v older =>
    obtain ⟨⟨-, hv⟩, -⟩ := h
    obtain rfl : v.sha = sha := Option.some.inj hsha
    rw [hv]
    exact Sha256.newline_notMem_hexDigest _

/-- Without a collision, chains that begin with one hash are of one issue and go on from
one hash. -/
theorem Chained.parent_eq (hfree : ¬Sha256.Collision texts) {v w : Version}
    {older older' : List Version} (hv : t.Chained texts issueId (v :: older))
    (hw : t.Chained texts issueId' (w :: older')) (hsha : v.sha = w.sha) :
    issueId = issueId'
      ∧ older.head?.map (fun v => v.sha) = older'.head?.map fun v => v.sha := by
  obtain ⟨⟨hvmem, hvsha⟩, hvolder⟩ := hv
  obtain ⟨⟨hwmem, hwsha⟩, hwolder⟩ := hw
  rw [hvsha, hwsha] at hsha
  have htext := Sha256.eq_of_hexDigest_eq hfree hvmem hwmem hsha
  exact Version.content_inj hvolder.newline_notMem hwolder.newline_notMem htext

/-- Without a collision, chains that begin with one hash are of one issue and of one length.  Equal
hashes have equal texts, these name the hash before, and so on to the first version, which has
none. -/
theorem Chained.length_eq (hfree : ¬Sha256.Collision texts) {v w : Version}
    {older older' : List Version} (hv : t.Chained texts issueId (v :: older))
    (hw : t.Chained texts issueId' (w :: older')) (hsha : v.sha = w.sha) :
    issueId = issueId' ∧ older.length = older'.length := by
  induction older generalizing v w older' with
  | nil =>
    obtain ⟨hissue, hparent⟩ := hv.parent_eq hfree hw hsha
    cases older' with
    | nil => exact ⟨hissue, rfl⟩
    | cons w' older' => cases hparent
  | cons v' older ih =>
    obtain ⟨-, hparent⟩ := hv.parent_eq hfree hw hsha
    cases older' with
    | nil => cases hparent
    | cons w' older' =>
      obtain ⟨hissue, hlength⟩ := ih hv.2 hw.2 (Option.some.inj hparent)
      exact ⟨hissue, congrArg (· + 1) hlength⟩

/-! ### The versions of all issues -/

theorem mem_versionsOfIssue {v : Version} :
    v ∈ t.versionsOfIssue issueId ↔ v ∈ t.versions.values ∧ v.issueId = issueId := by
  rw [versionsOfIssue, List.mem_filter, List.mem_reverse, beq_iff_eq]

/-- The versions of every issue are chained. -/
def ChainedIn (t : Tables) (texts : List String) : Prop :=
  ∀ issueId, t.Chained texts issueId (t.versionsOfIssue issueId)

/-- Without a collision two versions have two hashes. -/
theorem ChainedIn.eq_of_sha_eq (h : t.ChainedIn texts) (hfree : ¬Sha256.Collision texts)
    {v w : Version} (hv : v ∈ t.versions.values) (hw : w ∈ t.versions.values)
    (hsha : v.sha = w.sha) : v = w := by
  have hwmem : w ∈ t.versionsOfIssue w.issueId := mem_versionsOfIssue.2 ⟨hw, rfl⟩
  obtain ⟨newer, older, hvs⟩ := List.append_of_mem (mem_versionsOfIssue.2 ⟨hv, rfl⟩)
  obtain ⟨newer', older', hws⟩ := List.append_of_mem hwmem
  have hvchain := h v.issueId
  have hwchain := h w.issueId
  rw [hvs] at hvchain
  rw [hws] at hwchain
  obtain ⟨hissue, hlength⟩ := Chained.length_eq hfree hvchain.of_append hwchain.of_append hsha
  -- both are in one list now, with equally many versions behind them
  rw [hissue, hws] at hvs
  have hsuffix := (List.append_inj' hvs (congrArg (· + 1) hlength.symm)).2
  exact (List.cons.inj hsuffix).1.symm

/-- A version is found by its hash, if no other version has it. -/
theorem findVersionBySha_eq_some {v : Version} (hv : v ∈ t.versions.values)
    (honly : ∀ w ∈ t.versions.values, w.sha = v.sha → w = v) :
    t.findVersionBySha v.issueId v.sha = some v := by
  unfold findVersionBySha
  cases hfind : t.versions.values.find? fun w => w.issueId == v.issueId && w.sha == v.sha with
  | none =>
    have hnot := List.find?_eq_none.1 hfind v hv
    rw [beq_self_eq_true, beq_self_eq_true] at hnot
    exact absurd rfl hnot
  | some w =>
    have hfound := List.find?_some hfind
    obtain ⟨-, hsha⟩ := Bool.and_eq_true_iff.1 hfound
    rw [honly w (List.mem_of_find?_eq_some hfind) (beq_iff_eq.1 hsha)]

end Tables

/-! ### Writing -/

namespace Store

/-- The text that is hashed when something is written, if one is. -/
def hashed? (s : Store) : Write → Option String
  | .version issue events _ =>
    some (Version.content issue.id (s.tables.headSha issue.id)
      (events.map fun e => ⟨e.1, s.nextId, e.2⟩))
  | _ => none

/-- A version that is written has the hash of the text that is hashed. -/
theorem sha_commitVersion {s : Store} {issue : Issue} {events : List (DesignId × Event)}
    {createdAt : Instant} {text : String}
    (h : s.hashed? (.version issue events createdAt) = some text) :
    (s.commitVersion issue events createdAt).1.sha = Sha256.hexDigest text := by
  obtain rfl := Option.some.inj h
  rfl

/-- A version that is written is the newest one of its issue. -/
theorem versionsOfIssue_write {s : Store} (hs : s.Bounded) (hleft : s.lastId < Int64.maxValue)
    (issue : Issue) (events : List (DesignId × Event)) (createdAt : Instant) (issueId : IssueId) :
    (s.write (.version issue events createdAt)).tables.versionsOfIssue issueId
      = if issue.id = issueId then
          (s.commitVersion issue events createdAt).1 :: s.tables.versionsOfIssue issueId
        else s.tables.versionsOfIssue issueId := by
  have hvalues : (s.write (.version issue events createdAt)).tables.versions.values
      = s.tables.versions.values ++ [(s.commitVersion issue events createdAt).1] :=
    values_insert_of_bounded hs.version (lastId_lt_nextId hleft) _
  unfold Tables.versionsOfIssue
  rw [hvalues, List.reverse_append, List.reverse_singleton, List.singleton_append]
  split
  · rename_i hissue
    exact List.filter_cons_of_pos (beq_iff_eq.2 hissue)
  · rename_i hissue
    refine List.filter_cons_of_neg ?_
    rw [beq_iff_eq]
    exact hissue

/-- What is recorded by a version that is written is what it was written with. -/
theorem filter_actions_write {s : Store} (hs : s.Bounded) (hleft : s.lastId < Int64.maxValue)
    (issue : Issue) (events : List (DesignId × Event)) (createdAt : Instant) :
    (s.write (.version issue events createdAt)).tables.actions.filter
        (fun a => a.versionId == s.nextId)
      = events.map fun e => ⟨e.1, s.nextId, e.2⟩ := by
  show List.filter _ (s.tables.actions ++ _) = _
  have hold : s.tables.actions.filter (fun a => a.versionId == s.nextId) = [] := by
    refine List.filter_eq_nil_iff.2 fun a ha => ?_
    rw [beq_iff_eq]
    exact Int64.ne_of_lt (Int64.lt_of_le_of_lt (hs.action ha) (lastId_lt_nextId hleft))
  rw [List.filter_append, hold, List.nil_append, List.filter_eq_self.2]
  intro a ha
  obtain ⟨e, -, rfl⟩ := List.mem_map.1 ha
  exact beq_self_eq_true _

/-- The actions of a version that is written are those it was written with. -/
theorem actionsOfVersion_write {s : Store} (hs : s.Bounded) (hleft : s.lastId < Int64.maxValue)
    (issue : Issue) (events : List (DesignId × Event)) (createdAt : Instant) :
    ((s.write (.version issue events createdAt)).tables.actionsOfVersion s.nextId).Perm
      (events.map fun e => ⟨e.1, s.nextId, e.2⟩) := by
  rw [← filter_actions_write hs hleft issue events createdAt]
  exact sortOn_perm _ _

/-- Writing keeps the versions of every issue chained.  A new version adds its text to the known
ones, and its actions have an id that no older version has. -/
theorem chainedIn_write {s : Store} {texts : List String} (hs : s.Bounded)
    (hleft : s.lastId < Int64.maxValue) (h : s.tables.ChainedIn texts) (w : Write) :
    (s.write w).tables.ChainedIn (texts ++ (s.hashed? w).toList) := by
  intro issueId
  -- what is there already keeps its actions, whatever is written
  have hkept : (s.write w).tables.Chained (texts ++ (s.hashed? w).toList) issueId
      (s.tables.versionsOfIssue issueId) := by
    refine (h issueId).mono (fun text => List.mem_append_left _) fun v hv => ?_
    have hstored := hs.keyed.mem_versions_iff.1 (Tables.mem_versionsOfIssue.1 hv).1
    exact (continued_write hs hleft w).actionsOfVersion_eq (hs.version hstored)
  cases w with
  | issue projectId title => exact hkept
  | design issue filename => exact hkept
  | version issue events createdAt =>
    rw [versionsOfIssue_write hs hleft]
    split
    · rename_i hissue
      subst hissue
      have htext : (s.write (.version issue events createdAt)).tables.textOf issue.id
            (s.commitVersion issue events createdAt).1 (s.tables.versionsOfIssue issue.id)
          = Version.content issue.id (s.tables.headSha issue.id)
            (events.map fun e => ⟨e.1, s.nextId, e.2⟩) :=
        Version.content_eq_of_perm (actionsOfVersion_write hs hleft issue events createdAt) _ _
      refine ⟨?_, hkept⟩
      rw [htext]
      exact ⟨List.mem_append_right _ List.mem_cons_self, sha_commitVersion rfl⟩
    · exact hkept

end Store

end DesignHistory
