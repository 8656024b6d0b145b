import DesignHistory.Proofs.Selection.Accepts
import DesignHistory.Proofs.Selection.Chains

/-!
# What a chain of restrictions accepts

A chain can be read off from what it accepts without working it out: the two parts of a pair
belong to the issue that the chain names last, if it names any, and the pin of the pair is in
every list that was requested.  Neither the order nor the repetition of pins in a list
matters, and neither does it matter where in the chain the issues are named.

## Main definitions

* `Restriction.lastIssue?`: the issue that a chain names last.

## Main statements

* `Selection.issueId_ofChain`: a chain keeps the issue that it names last.
* `Selection.accepts_ofChain_iff`: what a chain accepts, and that halving finds it.
-/

namespace DesignHistory

namespace Restriction

/-- The issue that a restriction names. -/
def issue? : Restriction → Option IssueId
  | .issue id => some id
  | .pins _ => none

/-- The issue that a chain names last, if it names any. -/
def lastIssue? (chain : List Restriction) : Option IssueId := (chain.filterMap issue?).getLast?

end Restriction

namespace Selection

/-- A chain of restrictions keeps the issue that it names last, or else the one that was named
before it. -/
theorem issueId_foldl_restrict (chain : List Restriction) (s : Selection) :
    (chain.foldl restrict s).issueId = (Restriction.lastIssue? chain).or s.issueId := by
  induction chain generalizing s with
  | nil => rfl
  | cons r rest ih =>
    rw [List.foldl_cons, ih]
    cases r with
    | issue id =>
      -- the issue of this restriction stays only if the rest names none
      have hcons : Restriction.lastIssue? (.issue id :: rest)
          = some ((Restriction.lastIssue? rest).getD id) :=
        List.getLast?_cons
      rw [hcons]
      show (Restriction.lastIssue? rest).or (some id) = _
      cases Restriction.lastIssue? rest <;> rfl
    | pins requested =>
      have hkept : (s.forPins requested).issueId = s.issueId := by
        unfold forPins
        split <;> rfl
      rw [restrict, hkept]
      rfl

/-- A chain from the start keeps the issue that it names last.  An earlier issue is forgotten,
unlike an earlier request for pins. -/
theorem issueId_ofChain (chain : List Restriction) :
    (ofChain chain).issueId = Restriction.lastIssue? chain := by
  rw [ofChain, issueId_foldl_restrict]
  exact Option.or_none

/-- **What a chain of restrictions accepts.** It is exactly the pairs of one issue, the one that the
chain names last if it names any, whose pins are in every list that it requests; and a pin is found
by halving among the pins that a chain leaves exactly if it is one of them. -/
theorem accepts_ofChain_iff (chain : List Restriction) :
    (∀ d v, (ofChain chain).accepts d v = true ↔
        d.issueId = v.issueId
          ∧ (∀ issueId, Restriction.lastIssue? chain = some issueId → d.issueId = issueId)
          ∧ ∀ requested, .pins requested ∈ chain → (⟨d.id, v.id⟩ : Pin) ∈ requested)
      ∧ ∀ pins pin, (ofChain chain).pins = some pins → (bisect pin pins = true ↔ pin ∈ pins) := by
  have hnormal := normal_ofChain chain
  constructor
  · intro d v
    rw [accepts_iff hnormal, issueId_ofChain]
    -- the pins that are left are those in all requests
    exact and_congr_right fun _ => and_congr_right fun _ => leaves_ofChain_iff_isCommon
  · intro pins pin hpins
    exact bisect_eq_true_iff (hnormal pins hpins)

/-- Two lists of pins, unsorted and with repetitions, and two issues. -/
def narrowedTwice : List Restriction :=
  [.pins [⟨3, 4⟩, ⟨-1, 2⟩, ⟨3, 4⟩, ⟨-1, -2⟩], .issue 9, .pins [⟨-1, 2⟩, ⟨7, 7⟩, ⟨-1, -2⟩], .issue 1]

/-- A pair of the issue that is named last with a pin in both lists is accepted, even a pin
with a negative id, and one whose pin is only in one of them is not. -/
theorem accepts_ofChain_narrowedTwice :
    (ofChain narrowedTwice).accepts ⟨-1, 7, 1, "a"⟩ ⟨2, 1, "", none, default⟩ = true
      ∧ ¬(ofChain narrowedTwice).accepts ⟨3, 7, 1, "a"⟩ ⟨4, 1, "", none, default⟩ = true
      ∧ bisect (⟨-1, 2⟩ : Pin) [⟨-1, -2⟩, ⟨-1, 2⟩] = true := by
  obtain ⟨haccepts, hbisect⟩ := accepts_ofChain_iff narrowedTwice
  have hpins : (ofChain narrowedTwice).pins = some [⟨-1, -2⟩, ⟨-1, 2⟩] := by decide
  have hissue : Restriction.lastIssue? narrowedTwice = some 1 := by decide
  refine ⟨?_, ?_, ?_⟩
  · refine (haccepts _ _).2 ⟨rfl, fun issueId h => ?_, fun requested h => ?_⟩
    · exact Option.some.inj (hissue.symm.trans h)
    · simp only [narrowedTwice, List.mem_cons, Restriction.pins.injEq, reduceCtorEq, false_or,
        or_false, List.not_mem_nil] at h
      rcases h with rfl | rfl <;> decide
  · intro h
    obtain ⟨-, -, hall⟩ := (haccepts _ _).1 h
    have hsecond := hall [⟨-1, 2⟩, ⟨7, 7⟩, ⟨-1, -2⟩] (by decide)
    exact absurd hsecond (by decide)
  · exact (hbisect _ _ hpins).2 (by decide)

end Selection

end DesignHistory
