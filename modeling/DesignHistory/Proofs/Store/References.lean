import Mathlib.Data.List.Dedup
import DesignHistory.Store

/-!
# What references point at

A reference names an issue and a file of it.  As long as no two designs of an issue share a
filename, a reference points at one design at most, and a search that stops at the first design
finds the only one.

A question that is put for each reference in turn finds a design as often as references point at
it.

## Main definitions

* `Design.reference`: the reference that points at a design.
* `Tables.FilenamesUnique`: no two designs of an issue share a filename.
* `designsPerReference`: every design as often as references point at it.

## Main statements

* `Tables.findDesignByFilename_eq_some_iff`: a search by filename finds what the reference points
  at.
* `Tables.findDesignsByReference_congr`: only the members of a list of references count.
* `Tables.length_findDesignsByReference`: how many designs are found for a list of references.
* `Tables.designsPerReference_eq_iff`: when no design is found twice.
-/

namespace DesignHistory

variable {d e : Design} {r : DesignReference}

/-- The reference that points at a design. -/
def Design.reference (d : Design) : DesignReference := ⟨d.issueId, d.filename⟩

theorem Design.reference_eq_iff :
    d.reference = r ↔ d.issueId = r.issueId ∧ d.filename = r.filename := by
  obtain ⟨issueId, filename⟩ := r
  simp [Design.reference]

theorem DesignReference.pointsAt_iff : r.pointsAt d = true ↔ d.reference = r := by
  rw [pointsAt, Bool.and_eq_true, beq_iff_eq, beq_iff_eq, Design.reference_eq_iff]

namespace Tables

variable {t : Tables} {references references' : List DesignReference}

/-- No two designs of an issue share a filename.  It is stated of the tables, because the store
accepts a filename a second time. -/
def FilenamesUnique (t : Tables) : Prop :=
  t.designs.values.Pairwise fun d e => d.issueId = e.issueId → d.filename ≠ e.filename

instance (t : Tables) : Decidable t.FilenamesUnique :=
  inferInstanceAs (Decidable (t.designs.values.Pairwise _))

/-- Designs with different filenames in each issue have different references. -/
theorem FilenamesUnique.nodup_reference (h : t.FilenamesUnique) :
    (t.designs.values.map Design.reference).Nodup :=
  List.pairwise_map.2 <| h.imp fun hne href => by
    injection href with hissue hfilename
    exact hne hissue hfilename

theorem FilenamesUnique.eq_of_reference_eq (h : t.FilenamesUnique) (hd : d ∈ t.designs.values)
    (he : e ∈ t.designs.values) (href : d.reference = e.reference) : d = e :=
  List.inj_on_of_nodup_map h.nodup_reference hd he href

/-! ### One reference -/

/-- A search by issue and filename is a search for a design that the reference points at. -/
theorem findDesignByFilename_eq_find? (t : Tables) (r : DesignReference) :
    t.findDesignByFilename r.issueId r.filename = t.designs.values.find? r.pointsAt := rfl

theorem isSome_findDesignByFilename_iff :
    (t.findDesignByFilename r.issueId r.filename).isSome = true
      ↔ ∃ d ∈ t.designs.values, d.reference = r := by
  simp only [findDesignByFilename_eq_find?, List.find?_isSome, DesignReference.pointsAt_iff]

/-- If filenames are unique, the design that is found for a reference is the one it points at. -/
theorem findDesignByFilename_eq_some_iff (h : t.FilenamesUnique) :
    t.findDesignByFilename r.issueId r.filename = some d
      ↔ d ∈ t.designs.values ∧ d.reference = r := by
  rw [findDesignByFilename_eq_find?]
  constructor
  · intro hfound
    exact ⟨List.mem_of_find?_eq_some hfound,
      DesignReference.pointsAt_iff.1 (List.find?_some hfound)⟩
  · rintro ⟨hd, rfl⟩
    obtain ⟨e, he⟩ := Option.isSome_iff_exists.1
      (List.find?_isSome.2 ⟨d, hd, DesignReference.pointsAt_iff.2 rfl⟩)
    have href := DesignReference.pointsAt_iff.1 (List.find?_some he)
    rw [he, h.eq_of_reference_eq (List.mem_of_find?_eq_some he) hd href]

/-! ### Lists of references -/

/-- The designs that are found for a list of references are those that it points at. -/
theorem mem_findDesignsByReference :
    d ∈ t.findDesignsByReference references ↔ d ∈ t.designs.values ∧ d.reference ∈ references := by
  rw [findDesignsByReference, List.mem_filter, List.any_eq_true]
  simp only [DesignReference.pointsAt_iff, exists_eq_right']

/-- What is found for a list of references depends on its members alone. -/
theorem findDesignsByReference_congr (h : ∀ r, r ∈ references ↔ r ∈ references') :
    t.findDesignsByReference references = t.findDesignsByReference references' := by
  refine List.filter_congr fun d _ => ?_
  rw [Bool.eq_iff_iff, List.any_eq_true, List.any_eq_true]
  simp only [h]

theorem findDesignsByReference_nil (t : Tables) : t.findDesignsByReference [] = [] :=
  List.filter_eq_nil_iff.2 fun _ _ => Bool.false_ne_true

theorem FilenamesUnique.nodup_found (h : t.FilenamesUnique) (references : List DesignReference) :
    ((t.findDesignsByReference references).map Design.reference).Nodup :=
  h.nodup_reference.sublist (List.filter_sublist.map _)

/-- Of designs with unique filenames as many are found as there are different references that
something is found for. -/
theorem length_findDesignsByReference (h : t.FilenamesUnique)
    (references : List DesignReference) :
    (t.findDesignsByReference references).length
      = (references.dedup.filter fun r =>
          (t.findDesignByFilename r.issueId r.filename).isSome).length := by
  have hmem : ∀ r, r ∈ (t.findDesignsByReference references).map Design.reference
      ↔ r ∈ references.dedup.filter fun r =>
        (t.findDesignByFilename r.issueId r.filename).isSome := by
    intro r
    simp only [List.mem_map, mem_findDesignsByReference, List.mem_filter, List.mem_dedup,
      isSome_findDesignByFilename_iff]
    constructor
    · rintro ⟨d, ⟨hd, href⟩, rfl⟩
      exact ⟨href, d, hd, rfl⟩
    · rintro ⟨href, d, hd, rfl⟩
      exact ⟨d, ⟨hd, href⟩, rfl⟩
  rw [← List.length_map Design.reference]
  exact ((List.perm_ext_iff_of_nodup (h.nodup_found references)
    ((List.nodup_dedup _).filter _)).2 hmem).length_eq

end Tables

/-! ### A design for each reference -/

/-- A list in which elements are repeated holds those that are kept at all. -/
theorem filter_sublist_flatMap_replicate {α : Type} (f : α → Nat) (l : List α) :
    (l.filter fun a => f a != 0).Sublist (l.flatMap fun a => List.replicate (f a) a) := by
  induction l with
  | nil => exact List.Sublist.slnil
  | cons a rest ih =>
    rw [List.filter_cons, List.flatMap_cons]
    cases h : f a with
    | zero => simpa using ih
    | succ n =>
      rw [if_pos (by simp), List.replicate_succ, List.cons_append]
      exact (ih.trans (List.sublist_append_right _ _)).cons_cons a

/-- Repeating elements leaves each at most once exactly if none is to be repeated.  Both sides keep
the order of the list. -/
theorem flatMap_replicate_eq_filter_iff {α : Type} (f : α → Nat) (l : List α) :
    (l.flatMap fun a => List.replicate (f a) a) = l.filter (fun a => f a != 0)
      ↔ ∀ a ∈ l, f a ≤ 1 := by
  induction l with
  | nil => simp
  | cons a rest ih =>
    rw [List.flatMap_cons, List.filter_cons, List.forall_mem_cons, ← ih]
    match h : f a with
    | 0 => simp
    | 1 => simp
    | n + 2 =>
      -- what is repeated makes the list too long
      have hshort := (filter_sublist_flatMap_replicate f rest).length_le
      rw [if_pos (by simp)]
      refine iff_of_false (fun heq => ?_) fun hle => by omega
      have hlength := congrArg List.length heq
      rw [List.length_append, List.length_replicate, List.length_cons] at hlength
      omega

/-- Every design as often as references point at it.  This is what a join with the references makes
of the designs. -/
def designsPerReference (references : List DesignReference) (ds : List Design) : List Design :=
  ds.flatMap fun d => List.replicate (references.count d.reference) d

theorem mem_of_mem_designsPerReference {ds : List Design} {references : List DesignReference}
    (h : d ∈ designsPerReference references ds) : d ∈ ds := by
  obtain ⟨e, he, hd⟩ := List.mem_flatMap.1 h
  rwa [(List.mem_replicate.1 hd).2]

namespace Tables

variable {t : Tables} {references : List DesignReference}

/-- A design is found for a list of references if it is not found no time for them. -/
theorem findDesignsByReference_eq_filter_count (t : Tables) (references : List DesignReference) :
    t.findDesignsByReference references
      = t.designs.values.filter fun d => references.count d.reference != 0 := by
  refine List.filter_congr fun d _ => ?_
  rw [Bool.eq_iff_iff, List.any_eq_true, bne_iff_ne, ← Nat.pos_iff_ne_zero, List.count_pos_iff]
  simp only [DesignReference.pointsAt_iff, exists_eq_right']

/-- What is found for each reference in turn is what is found for all of them together, exactly if
no reference that points at a design is repeated.  References that point at nothing may be
repeated. -/
theorem designsPerReference_eq_iff :
    designsPerReference references t.designs.values = t.findDesignsByReference references
      ↔ ∀ d ∈ t.designs.values, references.count d.reference ≤ 1 := by
  rw [findDesignsByReference_eq_filter_count]
  exact flatMap_replicate_eq_filter_iff _ _

/-- Among different references none is repeated. -/
theorem designsPerReference_distinct (t : Tables) (references : List DesignReference) :
    designsPerReference (distinct references) t.designs.values
      = t.findDesignsByReference references := by
  have hnodup : (distinct references).Nodup :=
    (pairwise_distinct references).imp KeyOrder.ne_of_before
  rw [designsPerReference_eq_iff.2 fun d _ => List.nodup_iff_count_le_one.1 hnodup d.reference]
  exact findDesignsByReference_congr fun r => mem_distinct

end Tables

end DesignHistory
