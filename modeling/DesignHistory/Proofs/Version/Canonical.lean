import Mathlib.Data.List.Perm.Basic
import DesignHistory.Proofs.Store.Writes
import DesignHistory.Proofs.Version.Content

/-!
# A canonical text for a version

The text that a version is hashed from is in lines.  No number has a colon or a newline in it,
so each line can be read off, one after the other, and the sorted actions with them; and sorting
leaves nothing of the order in which the actions were given.  Two versions have one text exactly
if they have one issue, one parent, and the same events on the same designs, and only the hash
function can give one hash to two texts.

## Main definitions

* `Version.effects`: the designs that actions are on, each with its event.

## Main statements

* `Version.actionLines_injective`: the sorted actions can be read off their lines.
* `Version.recorded_eq_iff`: sorted actions are equal if the actions are, up to their order.
* `Session.isHex_sha`: what is stored as a hash is one line.
* `Version.content_canonical`: when two versions have one text, and when they have one hash.
-/

namespace DesignHistory

theorem Event.code_toInt64_injective {e e' : Event} (h : e.code.toInt64 = e'.code.toInt64) :
    e = e' := by
  revert h
  cases e <;> cases e' <;> decide

namespace Version

/-- The line of an action can be told from what follows it.  A line ends with the first line break,
and its two numbers are separated by a character that no number has. -/
theorem actionLine_inj {entry entry' : DesignId × Int64} {rest rest' : List Char}
    (h : (actionLine entry).toList ++ rest = (actionLine entry').toList ++ rest') :
    entry = entry' ∧ rest = rest' := by
  have hline : ∀ (entry : DesignId × Int64) (rest : List Char), (actionLine entry).toList ++ rest
      = "action:".toList ++ ((Decimal.ofInt64 entry.1).toList ++ ':' ::
        ((Decimal.ofInt64 entry.2).toList ++ '\n' :: rest)) := by
    intro entry rest
    simp [actionLine]
  rw [hline, hline, List.append_cancel_left_eq] at h
  have hcolon := Decimal.notMem_ofInt64 (c := ':') (by decide) (by decide)
  have hnewline := Decimal.notMem_ofInt64 (c := '\n') (by decide) (by decide)
  obtain ⟨hdesign, hbehind⟩ := separated_inj (hcolon entry.1) (hcolon entry'.1) h
  obtain ⟨hcode, hrest⟩ := separated_inj (hnewline entry.2) (hnewline entry'.2) hbehind
  refine ⟨Prod.ext ?_ ?_, hrest⟩
  · exact Decimal.ofInt64_injective (String.toList_injective hdesign)
  · exact Decimal.ofInt64_injective (String.toList_injective hcode)

/-- The recorded actions can be read off their lines. -/
theorem actionLines_injective {l l' : List (DesignId × Int64)}
    (h : String.join (l.map actionLine) = String.join (l'.map actionLine)) : l = l' := by
  have hlines : ∀ l : List (DesignId × Int64), (String.join (l.map actionLine)).toList
      = l.flatMap fun entry => (actionLine entry).toList := by
    intro l
    rw [String.toList_join, List.flatMap_map]
  refine flatMap_code_injective (fun entry => ?_) actionLine_inj (?_ : l.flatMap _ = l'.flatMap _)
  · simp [actionLine]
  · rw [← hlines, ← hlines, h]

/-- The designs that actions are on, each with its event.  The version that recorded the actions is
left out, as it is left out of what is hashed. -/
def effects (actions : List Action) : List (DesignId × Event) :=
  actions.map fun a => (a.designId, a.event)

/-- The same is recorded if the actions are the same events on the same designs, in some order.
Sorted lists with the same elements are equal. -/
theorem recorded_eq_iff {actions actions' : List Action} :
    recorded actions = recorded actions' ↔ (effects actions).Perm (effects actions') := by
  have hcode : Function.Injective fun e : DesignId × Event => (e.1, e.2.code.toInt64) := by
    rintro ⟨d, e⟩ ⟨d', e'⟩ h
    obtain ⟨hdesign, hcode⟩ := Prod.mk.inj h
    exact Prod.ext hdesign (Event.code_toInt64_injective hcode)
  have hrecorded : ∀ actions, recorded actions
      = sortOn (fun entry => entry) ((effects actions).map fun e => (e.1, e.2.code.toInt64)) := by
    intro actions
    rw [effects, List.map_map]
    rfl
  rw [hrecorded, hrecorded, ← List.map_perm_map_iff hcode]
  constructor
  · intro h
    exact (sortOn_perm _ _).symm.trans ((List.Perm.of_eq h).trans (sortOn_perm _ _))
  · exact sortOn_self_eq_of_perm

/-- The content of a version says which issue and which parent it has and what it records, and
no more than that. -/
theorem content_eq_iff {issueId issueId' : IssueId} {parent parent' : Option String}
    {actions actions' : List Action} (hparent : ∀ sha ∈ parent, '\n' ∉ sha.toList)
    (hparent' : ∀ sha ∈ parent', '\n' ∉ sha.toList) :
    content issueId parent actions = content issueId' parent' actions'
      ↔ issueId = issueId' ∧ parent = parent' ∧ recorded actions = recorded actions' := by
  constructor
  · intro h
    obtain ⟨rfl, rfl⟩ := content_inj hparent hparent' h
    have hlists := congrArg String.toList h
    simp only [content, String.toList_append, List.append_cancel_left_eq] at hlists
    exact ⟨rfl, rfl, actionLines_injective (String.toList_injective hlists)⟩
  · rintro ⟨rfl, rfl, hrecorded⟩
    rw [content, content, hrecorded]

end Version

/-! ### Stored hashes -/

/-- Writing stores nothing but hashes as such. -/
theorem Store.isHex_write {s : Store}
    (hs : ∀ {id v}, s.tables.versions.get? id = some v → Sha256.IsHex v.sha) (w : Write)
    {id : VersionId} {v : Version} (h : (s.write w).tables.versions.get? id = some v) :
    Sha256.IsHex v.sha := by
  cases w with
  | issue projectId title => exact hs h
  | design issue filename => exact hs h
  | version issue events createdAt =>
    have hinsert : (s.tables.versions.insert _ (s.commitVersion issue events createdAt).1).get? id
        = some v := h
    rw [SortedMap.get?_insert] at hinsert
    split at hinsert
    · obtain rfl := Option.some.inj hinsert
      exact Sha256.isHex_hexDigest _
    · exact hs hinsert

namespace Session

/-- **In every session what is stored as a hash is one.** So a parent is always a single line, and
the text of a version can be taken apart again. -/
theorem isHex_sha (steps : List Step) {id : VersionId} {v : Version}
    (h : (after steps).store.tables.versions.get? id = some v) : Sha256.IsHex v.sha := by
  refine after_induction (P := fun s => ∀ {id v}, s.store.tables.versions.get? id = some v →
    Sha256.IsHex v.sha) ?_ (fun s step hs => ?_) steps h
  · intro id v h
    cases h
  · rw [tables_step]
    cases hw : s.write? step with
    | none => rw [written_of_none hw]; exact hs
    | some w => rw [written_of_some hw]; exact Store.isHex_write hs w

end Session

namespace Version

/-- **The hashed text is canonical.** Two hashed texts, with parents that are single lines as stored
hashes are, are equal exactly if they are for one issue, one parent and the same effects.  So the
order of the actions and the version that recorded them do not matter for the hash, and for whatever
else differs an equal hash is a collision. -/
theorem content_canonical {issueId issueId' : IssueId} {parent parent' : Option String}
    {actions actions' : List Action} (hparent : ∀ sha ∈ parent, '\n' ∉ sha.toList)
    (hparent' : ∀ sha ∈ parent', '\n' ∉ sha.toList) :
    (content issueId parent actions = content issueId' parent' actions'
        ↔ issueId = issueId' ∧ parent = parent' ∧ (effects actions).Perm (effects actions'))
      ∧ (computeSha issueId parent actions = computeSha issueId' parent' actions'
        ↔ (issueId = issueId' ∧ parent = parent' ∧ (effects actions).Perm (effects actions'))
          ∨ Sha256.Collision
            [content issueId parent actions, content issueId' parent' actions'])
      ∧ ∀ steps, ∀ v ∈ (Session.after steps).store.tables.versions.values,
        Sha256.IsHex v.sha := by
  have hcontent : content issueId parent actions = content issueId' parent' actions'
      ↔ issueId = issueId' ∧ parent = parent' ∧ (effects actions).Perm (effects actions') := by
    rw [content_eq_iff hparent hparent', recorded_eq_iff]
  refine ⟨hcontent, ?_, fun steps v hv => ?_⟩
  · rw [← hcontent]
    exact Sha256.hexDigest_eq_iff_or_collision
  · obtain ⟨id, hid⟩ := SortedMap.mem_values_iff.1 hv
    exact Session.isHex_sha steps hid

/-- Actions in another order and of another version have the same hash, and a parent without
text is not no parent. -/
theorem content_canonical_of_reordered :
    computeSha 1 (some "ab") [⟨4, 3, .deletion⟩, ⟨2, 3, .creation⟩, ⟨4, 3, .deletion⟩]
        = computeSha 1 (some "ab") [⟨2, 9, .creation⟩, ⟨4, 9, .deletion⟩, ⟨4, 9, .deletion⟩]
      ∧ content 1 none [⟨2, 3, .creation⟩] ≠ content 1 (some "") [⟨2, 3, .creation⟩] := by
  have hperm : (effects [⟨4, 3, .deletion⟩, ⟨2, 3, .creation⟩, ⟨4, 3, .deletion⟩]).Perm
      (effects [⟨2, 9, .creation⟩, ⟨4, 9, .deletion⟩, ⟨4, 9, .deletion⟩]) := by decide
  refine ⟨(content_canonical (by decide) (by decide)).2.1.2 (.inl ⟨rfl, rfl, hperm⟩), fun h => ?_⟩
  obtain ⟨-, hparent, -⟩ := (content_canonical (by decide) (by decide)).1.1 h
  cases hparent

end Version

end DesignHistory
