import DesignHistory.Selection

/-!
# What a selection accepts

Requested pins are looked for by halving, which finds them because they are kept
in strictly increasing order.  `Selection.Normal` is this order as an invariant of
restricting, and under it acceptance is membership.

## Main definitions

* `Selection.Normal`: the requested pins are strictly increasing.

## Main statements

* `Selection.normal_ofChain`: every chain of restrictions gives a normal selection.
* `Selection.accepts_iff`: what is accepted, in terms of membership.
-/

namespace DesignHistory.Selection

open KeyOrder

/-- The requested pins are strictly increasing.  So they are without repetition, and searching by
halving is right. -/
def Normal (s : Selection) : Prop :=
  ∀ pins, s.pins = some pins → pins.Pairwise fun p q => before p q = true

/-! ### Restricting -/

theorem normal_all : Normal all := by
  intro pins h
  cases h

/-- Requesting pins keeps a selection normal. -/
theorem Normal.forPins {s : Selection} (h : s.Normal) (requested : List Pin) :
    (s.forPins requested).Normal := by
  intro pins hpins
  unfold Selection.forPins at hpins
  split at hpins
  · rename_i existing hexisting
    cases hpins
    exact (h existing hexisting).filter _
  · cases hpins
    exact pairwise_distinct requested

theorem Normal.forIssue {s : Selection} (h : s.Normal) (issueId : IssueId) :
    (s.forIssue issueId).Normal := h

theorem Normal.restrict {s : Selection} (h : s.Normal) (r : Restriction) :
    (s.restrict r).Normal := by
  cases r with
  | pins requested => exact h.forPins requested
  | issue id => exact h.forIssue id

/-- Every chain of restrictions gives a normal selection. -/
theorem normal_ofChain (restrictions : List Restriction) : (ofChain restrictions).Normal := by
  have hfold : ∀ (l : List Restriction) (s : Selection),
      s.Normal → (l.foldl restrict s).Normal := by
    intro l
    induction l with
    | nil => exact fun s h => h
    | cons r rest ih => exact fun s h => ih _ (h.restrict r)
  exact hfold restrictions all normal_all

/-! ### Accepting -/

/-- A pair is accepted if both belong to one issue, the one that was named if any was, and the pin
of the pair is among the requested ones if any were.  The right-hand side is plain membership. -/
theorem accepts_iff {s : Selection} (h : s.Normal) {d : Design} {v : Version} :
    s.accepts d v = true ↔
      d.issueId = v.issueId ∧ (∀ issueId, s.issueId = some issueId → d.issueId = issueId)
        ∧ ∀ pins, s.pins = some pins → (⟨d.id, v.id⟩ : Pin) ∈ pins := by
  obtain ⟨pins, issueId⟩ := s
  rw [accepts, Bool.and_eq_true, Bool.and_eq_true, beq_iff_eq, and_assoc]
  refine and_congr_right fun _ => and_congr ?_ ?_
  · cases issueId <;> simp
  · cases pins with
    | none => simp
    | some pins => simp [bisect_eq_true_iff (h pins rfl)]

/-- Of the pairs of one issue, those with a requested pin are accepted. -/
theorem accepts_forPins {pins : List Pin} {d : Design} {v : Version} :
    (all.forPins pins).accepts d v = true ↔
      d.issueId = v.issueId ∧ (⟨d.id, v.id⟩ : Pin) ∈ pins := by
  rw [accepts_iff (normal_all.forPins pins)]
  simp [forPins, all]

/-- Of the pairs of a named issue, those with a requested pin are accepted. -/
theorem accepts_forIssue_forPins {pins : List Pin} {issueId : IssueId} {d : Design}
    {v : Version} :
    ((all.forPins pins).forIssue issueId).accepts d v = true ↔
      d.issueId = v.issueId ∧ d.issueId = issueId ∧ (⟨d.id, v.id⟩ : Pin) ∈ pins := by
  rw [accepts_iff ((normal_all.forPins pins).forIssue issueId)]
  simp [forPins, forIssue, all]

/-- Nothing is selected once no requested pin is left. -/
theorem select_of_matchesNothing {s : Selection} (h : s.matchesNothing = true)
    (designs : List Design) (versions : List Version) : s.select designs versions = [] := by
  have hpins : s.pins = some [] := by simpa [matchesNothing] using h
  have haccepts : ∀ d v, s.accepts d v = false := by
    intro d v
    rw [accepts, hpins]
    simp
  simp [select, haccepts]

end DesignHistory.Selection

namespace DesignHistory.PinnedDesign.Consistent

theorem accepts_forPins {p : PinnedDesign} (hp : p.Consistent) {pins : List Pin} :
    (Selection.all.forPins pins).accepts p.design p.version = true ↔ p.pin ∈ pins := by
  rw [Selection.accepts_forPins, and_iff_right hp.issueId, hp.pin]

theorem accepts_forIssue_forPins {p : PinnedDesign} (hp : p.Consistent) {pins : List Pin}
    {issueId : IssueId} :
    ((Selection.all.forPins pins).forIssue issueId).accepts p.design p.version = true ↔
      p.design.issueId = issueId ∧ p.pin ∈ pins := by
  rw [Selection.accepts_forIssue_forPins, and_iff_right hp.issueId, hp.pin]

end DesignHistory.PinnedDesign.Consistent
