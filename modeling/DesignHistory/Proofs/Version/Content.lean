import DesignHistory.Proofs.Digest.Hexadecimal
import DesignHistory.Proofs.Text.Decimal
import DesignHistory.Version.Content

/-!
# What the content of a version says

The text that a version is hashed from begins with the issue and, unless the version is
the first one of the issue, with its parent.  Both can be read off it.  The actions are in
it in an order of their own, so it does not matter in which order they are given.

## Main statements

* `Version.content_eq_of_perm`: the order of the actions does not matter.
* `Version.content_eq_of_version`: nor does the version that recorded them.
* `Version.content_inj`: the issue and the parent can be read off.
-/

namespace DesignHistory.Version

/-- The actions are hashed in one order, whatever the order in which they are given.  So the hash
can be computed again from actions that are listed in another order. -/
theorem content_eq_of_perm {actions actions' : List Action} (h : actions.Perm actions')
    (issueId : IssueId) (parent : Option String) :
    content issueId parent actions = content issueId parent actions' := by
  have hrecorded : recorded actions = recorded actions' :=
    sortOn_self_eq_of_perm (h.map fun a => (a.designId, a.event.code.toInt64))
  rw [content, content, hrecorded]

/-- The id of the version that recorded the actions is not hashed. -/
theorem content_eq_of_version (events : List (DesignId × Event)) (id id' : VersionId)
    (issueId : IssueId) (parent : Option String) :
    content issueId parent (events.map fun e => ⟨e.1, id, e.2⟩)
      = content issueId parent (events.map fun e => ⟨e.1, id', e.2⟩) := by
  have hrecorded : ∀ id, recorded (events.map fun e => ⟨e.1, id, e.2⟩)
      = sortOn (fun entry => entry) (events.map fun e => (e.1, e.2.code.toInt64)) := by
    intro id
    rw [recorded, List.map_map]
    rfl
  rw [content, content, hrecorded, hrecorded]

/-- Two texts of which each has a separator begin alike up to the first one, and go on alike, if
they are equal.  Every part of a hashed text ends in this way. -/
theorem separated_inj {sep : Char} {a b x y : List Char} (ha : sep ∉ a) (hb : sep ∉ b)
    (h : a ++ sep :: x = b ++ sep :: y) : a = b ∧ x = y := by
  induction a generalizing b with
  | nil =>
    cases b with
    | nil => exact ⟨rfl, (List.cons.inj h).2⟩
    | cons d b => exact absurd ((List.cons.inj h).1 ▸ List.mem_cons_self) hb
  | cons c a ih =>
    cases b with
    | nil => exact absurd ((List.cons.inj h).1 ▸ List.mem_cons_self) ha
    | cons d b =>
      obtain ⟨hcd, hrest⟩ := List.cons.inj h
      obtain ⟨hab, hxy⟩ := ih (fun hmem => ha (List.mem_cons_of_mem _ hmem))
        (fun hmem => hb (List.mem_cons_of_mem _ hmem)) hrest
      exact ⟨by rw [hcd, hab], hxy⟩

/-- The lines of the actions do not begin as the line of a parent does. -/
theorem head?_actionLines (l : List (DesignId × Int64)) :
    (String.join (l.map actionLine)).toList.head? ≠ some 'p' := by
  cases l with
  | nil => decide
  | cons entry rest => simp [actionLine]

/-- The line of a parent can be told from what follows it.  Without a parent the line of an action
follows, or nothing, and a parent that is a single line cannot be taken for that. -/
theorem parentLine_inj {parent parent' : Option String} {l l' : List (DesignId × Int64)}
    (hparent : ∀ sha ∈ parent, '\n' ∉ sha.toList) (hparent' : ∀ sha ∈ parent', '\n' ∉ sha.toList)
    (h : (parentLine parent).toList ++ (String.join (l.map actionLine)).toList
      = (parentLine parent').toList ++ (String.join (l'.map actionLine)).toList) :
    parent = parent' := by
  have hline : ∀ (sha : String) (rest : List Char), (parentLine (some sha)).toList ++ rest
      = "parent:".toList ++ (sha.toList ++ '\n' :: rest) := by
    intro sha rest
    simp [parentLine]
  -- a parent on one side alone would make an action line begin like the line of a parent
  have habsent : ∀ {sha : String} {l l' : List (DesignId × Int64)},
      (parentLine none).toList ++ (String.join (l.map actionLine)).toList
        ≠ (parentLine (some sha)).toList ++ (String.join (l'.map actionLine)).toList := by
    intro sha l l' h
    apply head?_actionLines l
    have hhead := congrArg List.head? h
    rw [hline] at hhead
    exact hhead
  cases parent with
  | none =>
    cases parent' with
    | none => rfl
    | some sha' => exact absurd h habsent
  | some sha =>
    cases parent' with
    | none => exact absurd h.symm habsent
    | some sha' =>
      rw [hline, hline, List.append_cancel_left_eq] at h
      have hsha := (separated_inj (hparent sha rfl) (hparent' sha' rfl) h).1
      rw [String.toList_injective hsha]

/-- The issue and the parent can be read off the content of a version.  A parent that had a line
break in it could be taken for an action. -/
theorem content_inj {issueId issueId' : IssueId} {parent parent' : Option String}
    {actions actions' : List Action} (hparent : ∀ sha ∈ parent, '\n' ∉ sha.toList)
    (hparent' : ∀ sha ∈ parent', '\n' ∉ sha.toList)
    (h : content issueId parent actions = content issueId' parent' actions') :
    issueId = issueId' ∧ parent = parent' := by
  have hnewline : ∀ id : IssueId, '\n' ∉ (Decimal.ofInt64 id).toList :=
    Decimal.notMem_ofInt64 (by decide) (by decide)
  have htext : ∀ (id : IssueId) (p : Option String) (as : List Action),
      (content id p as).toList = "issue:".toList ++ ((Decimal.ofInt64 id).toList ++ '\n' ::
        ((parentLine p).toList ++ (String.join ((recorded as).map actionLine)).toList)) := by
    intro id p as
    simp [content, issueLine]
  have hlists := congrArg String.toList h
  rw [htext, htext, List.append_cancel_left_eq] at hlists
  obtain ⟨hissue, hrest⟩ := separated_inj (hnewline issueId) (hnewline issueId') hlists
  exact ⟨Decimal.ofInt64_injective (String.toList_injective hissue),
    parentLine_inj hparent hparent' hrest⟩

end DesignHistory.Version
