import DesignHistory.Resolution

/-!
# What is left of requested pins

Each time pins are requested, those stay that were requested every time before.  So a
chain of restrictions leaves exactly the pins that every request in it has, wherever in
the chain the requests stand and however often issues are named between them.

## Main definitions

* `Restriction.Leaves`, `Selection.Leaves`: a pin may still be selected.
* `Restriction.Requests`, `Restriction.IsCommon`: what the requests of a chain come to.

## Main statements

* `Selection.leaves_ofChain_iff_isCommon`: the pins that a chain leaves.
* `Selection.matchesNothing_ofChain_iff`: when a chain leaves no pin.
-/

namespace DesignHistory

/-- A restriction does not rule a pin out. -/
def Restriction.Leaves (pin : Pin) (r : Restriction) : Prop :=
  ∀ requested, r = .pins requested → pin ∈ requested

/-- Some request for pins is among restrictions. -/
def Restriction.Requests (chain : List Restriction) : Prop := ∃ requested, .pins requested ∈ chain

/-- A pin is in every request for pins among restrictions.  If nothing is requested every pin is. -/
def Restriction.IsCommon (chain : List Restriction) (pin : Pin) : Prop :=
  ∀ requested, .pins requested ∈ chain → pin ∈ requested

namespace Selection

/-- A selection does not rule a pin out by its requests. -/
def Leaves (pin : Pin) (s : Selection) : Prop := ∀ pins, s.pins = some pins → pin ∈ pins

/-- A restriction leaves those of the pins left that it does not rule out. -/
theorem leaves_restrict_iff {s : Selection} {r : Restriction} {pin : Pin} :
    (s.restrict r).Leaves pin ↔ s.Leaves pin ∧ r.Leaves pin := by
  obtain ⟨pins, issueId⟩ := s
  cases r with
  | issue id => simp [restrict, forIssue, Leaves, Restriction.Leaves]
  | pins requested =>
    cases pins with
    | none => simp [restrict, forPins, Leaves, Restriction.Leaves]
    | some existing => simp [restrict, forPins, Leaves, Restriction.Leaves]

/-- A restriction requests pins, or leaves it as it was whether any were requested. -/
theorem isSome_pins_restrict {s : Selection} {r : Restriction} :
    (s.restrict r).pins.isSome = true
      ↔ s.pins.isSome = true ∨ ∃ requested, .pins requested = r := by
  obtain ⟨pins, issueId⟩ := s
  cases r with
  | issue id => simp [restrict, forIssue]
  | pins requested => cases pins <;> simp [restrict, forPins]

/-- A chain leaves the pins that none of its restrictions rules out.  The order of the restrictions
does not come into it, although each of them is applied to what the ones before have left. -/
theorem leaves_ofChain_iff {chain : List Restriction} {pin : Pin} :
    (ofChain chain).Leaves pin ↔ ∀ r ∈ chain, r.Leaves pin := by
  have hfold : ∀ (l : List Restriction) (s : Selection),
      (l.foldl restrict s).Leaves pin ↔ s.Leaves pin ∧ ∀ r ∈ l, r.Leaves pin := by
    intro l
    induction l with
    | nil => simp
    | cons r rest ih =>
      intro s
      rw [List.foldl_cons, ih, leaves_restrict_iff, List.forall_mem_cons, and_assoc]
  have hall : all.Leaves pin := by
    intro pins h
    cases h
  rw [ofChain, hfold]
  exact and_iff_right hall

/-- A chain leaves the pins that are in every request of it. -/
theorem leaves_ofChain_iff_isCommon {chain : List Restriction} {pin : Pin} :
    (ofChain chain).Leaves pin ↔ Restriction.IsCommon chain pin := by
  rw [leaves_ofChain_iff]
  constructor
  · exact fun h requested hmem => h _ hmem requested rfl
  · rintro h r hr requested rfl
    exact h requested hr

/-- A chain has requested pins if one of its restrictions does. -/
theorem isSome_pins_ofChain_iff {chain : List Restriction} :
    (ofChain chain).pins.isSome = true ↔ Restriction.Requests chain := by
  have hfold : ∀ (l : List Restriction) (s : Selection),
      (l.foldl restrict s).pins.isSome = true
        ↔ s.pins.isSome = true ∨ ∃ requested, .pins requested ∈ l := by
    intro l
    induction l with
    | nil => simp
    | cons r rest ih =>
      intro s
      rw [List.foldl_cons, ih, isSome_pins_restrict]
      simp only [List.mem_cons, exists_or, or_assoc]
  rw [ofChain, hfold]
  simp [all, Restriction.Requests]

/-- Nothing is selected if pins were requested and none of them is left. -/
theorem matchesNothing_iff {s : Selection} :
    s.matchesNothing = true ↔ s.pins.isSome = true ∧ ∀ pin, ¬s.Leaves pin := by
  obtain ⟨pins, issueId⟩ := s
  cases pins with
  | none => simp [matchesNothing]
  | some pins => simp [matchesNothing, Leaves, List.eq_nil_iff_forall_not_mem]

/-- A chain leaves no pin if pins are requested in it, and no pin is in all requests.  A request for
no pins at all is a request, and not the same as none. -/
theorem matchesNothing_ofChain_iff {chain : List Restriction} :
    (ofChain chain).matchesNothing = true
      ↔ Restriction.Requests chain
        ∧ ∀ pin, ∃ requested, .pins requested ∈ chain ∧ pin ∉ requested := by
  rw [matchesNothing_iff, isSome_pins_ofChain_iff]
  refine and_congr_right fun _ => forall_congr' fun pin => ?_
  simp only [leaves_ofChain_iff_isCommon, Restriction.IsCommon, Classical.not_forall, exists_prop]

end Selection

end DesignHistory
