import Mathlib.Data.List.Sort
import DesignHistory.Proofs.References.Lookups
import DesignHistory.Proofs.Session.Run

/-!
# References that are resolved together

References can be resolved one by one, each with a search among the designs of its issue, or
together, with one query for all of them.  A list of references is put in order and freed of
repetitions before it goes to the store, the designs that are found make an index, and each
reference is looked up there.  If no two designs of an issue share a filename, it comes to the
same, and the index depends on nothing but which references were asked for.

## Main statements

* `ReferenceIndex.resolve_congr`, `ReferenceIndex.run_resolve`: the index of a list of references.
* `ReferenceIndex.Indexes.find?_eq_ite`: what such an index has for a reference.
* `Session.step_resolveIndex`: a step makes an index and keeps it under a name.
* `Session.resolved_together`: resolving references together and one by one.
-/

namespace DesignHistory

open KeyOrder

theorem distinct_congr {κ : Type} [KeyOrder κ] {l l' : List κ} (h : ∀ k, k ∈ l ↔ k ∈ l') :
    distinct l = distinct l' :=
  (pairwise_distinct l).eq_of_mem_iff (pairwise_distinct l') fun k => by
    rw [mem_distinct, mem_distinct, h]

/-! ### Indexes of references -/

namespace ReferenceIndex

variable {references references' : List DesignReference} {s : Store}

/-- Only the members of a list of references count.  Repeated ones are dropped before the store is
asked, and it lists the designs in an order of its own. -/
theorem resolve_congr (h : ∀ r, r ∈ references ↔ r ∈ references') :
    resolve references = resolve references' := by
  rw [resolve, resolve, distinct_congr h]

/-- Without an armed failure references are resolved to the index of the designs that they point
at, with a query or without one. -/
theorem run_resolve (harmed : s.armed = none) (references : List DesignReference) :
    ((resolve references).run s).1
      = .ok (ofDesigns (s.tables.findDesignsByReference references)) := by
  have hfound : ((Resolution.designsByReference (distinct references)).run s).1
      = .ok (s.tables.findDesignsByReference references) := by
    have hsame : s.tables.findDesignsByReference (distinct references)
        = s.tables.findDesignsByReference references :=
      Tables.findDesignsByReference_congr fun r => mem_distinct
    rw [← hsame, Resolution.designsByReference]
    split
    · rename_i hempty
      rw [List.isEmpty_iff.1 hempty, Tables.findDesignsByReference_nil, Inquiry.run]
    · rw [Inquiry.run, Store.query, harmed]
      rfl
  rw [resolve, Inquiry.result_run_map, hfound]
  rfl

/-- If filenames are unique, an index of the designs that a list of references points at has for
each of these references what a search finds, and nothing for others. -/
theorem Indexes.find?_eq_ite {t : Tables} (ht : t.FilenamesUnique) {ix : ReferenceIndex}
    (h : ix.Indexes (t.findDesignsByReference references)) (r : DesignReference) :
    ix.find? r
      = if r ∈ references then t.findDesignByFilename r.issueId r.filename else none := by
  refine Option.ext fun d => ?_
  rw [h.find?_eq_some_iff (ht.nodup_found references), Tables.mem_findDesignsByReference]
  split
  · rename_i hr
    rw [Tables.findDesignByFilename_eq_some_iff ht, and_assoc]
    exact and_congr_right fun _ => and_iff_right_of_imp fun href => href ▸ hr
  · rename_i hr
    refine iff_of_false ?_ (Option.some_ne_none d).symm
    rintro ⟨⟨-, hlisted⟩, href⟩
    exact hr (href ▸ hlisted)

end ReferenceIndex

/-! ### Sessions -/

namespace Session

section Steps

variable {s : Session} {name : String}

/-- Without an armed failure a step that resolves references answers with what an index of the
designs that they point at has for them, and keeps the index. -/
theorem step_resolveIndex (harmed : s.store.armed = none) (name : String)
    (references : List DesignReference) :
    ∃ ix : ReferenceIndex, ix.Indexes (s.store.tables.findDesignsByReference references)
      ∧ (s.step (.resolveIndex name references)).1
        = .answer (.index ix.size ix.isEmpty (references.map ix.find?))
      ∧ (s.step (.resolveIndex name references)).2.indexes.get? name = some ix := by
  refine ⟨_, ReferenceIndex.indexes_ofDesigns _, ?_, ?_⟩
  · simp only [step, ReferenceIndex.run_resolve harmed]
  · simp only [step, ReferenceIndex.run_resolve harmed, SortedMap.get?_insert_self]

/-- Lists of references with the same members leave the same session behind. -/
theorem session_resolveIndex_congr {references references' : List DesignReference}
    (h : ∀ r, r ∈ references ↔ r ∈ references') :
    (s.step (.resolveIndex name references)).2 = (s.step (.resolveIndex name references')).2 := by
  simp only [step, ReferenceIndex.resolve_congr h]
  split <;> rfl

variable {ix : ReferenceIndex} (hix : s.indexes.get? name = some ix)

include hix

theorem outcome_indexFind (r : DesignReference) :
    (s.step (.indexFind name r)).1 = .answer (.design (ix.find? r)) := by
  simp only [step, hix]

theorem outcome_indexGet (projectId : ProjectId) (issueId : IssueId) (filename : String) :
    (s.step (.indexGet name projectId issueId filename)).1
      = .answer (.design (ix.get? projectId issueId filename)) := by
  simp only [step, hix]

end Steps

/-- **References that are resolved together lead where they lead one by one.** This is for a session
without an armed failure in which no two designs of an issue share a filename; other references lead
nowhere.  Each design that is found is there under its key, too, and the index has as many of them
as there are different references that something is found for.  It is the only index of these
designs, in whatever order it is made, and it is the same for every list with the same
references. -/
theorem resolved_together {before : List Step} (harmed : (after before).store.armed = none)
    (hunique : (after before).store.tables.FilenamesUnique) (name : String)
    (references : List DesignReference) :
    ∃ (found : DesignReference → Option Design) (count : Nat),
      (∀ r, ((after before).step (.ask (.findDesignByFilename r.issueId r.filename))).1
          = .answer (.design (found r)))
        ∧ ((after before).step (.resolveIndex name references)).1
          = .answer (.index count (count == 0) (references.map found))
        ∧ count = (references.dedup.filter fun r => (found r).isSome).length
        ∧ (∀ r, ((after (before ++ [.resolveIndex name references])).step (.indexFind name r)).1
          = .answer (.design (if r ∈ references then found r else none)))
        ∧ (∀ r ∈ references, ∀ d ∈ found r,
          ((after (before ++ [.resolveIndex name references])).step
            (.indexGet name d.projectId d.issueId d.filename)).1 = .answer (.design (some d)))
        ∧ (∀ ix : ReferenceIndex,
          ix.Indexes ((after before).store.tables.findDesignsByReference references) →
            (after (before ++ [.resolveIndex name references])).indexes.get? name = some ix)
        ∧ ∀ references', (∀ r, r ∈ references' ↔ r ∈ references) →
          after (before ++ [.resolveIndex name references'])
            = after (before ++ [.resolveIndex name references]) := by
  have hafter : ∀ references, after (before ++ [.resolveIndex name references])
      = ((after before).step (.resolveIndex name references)).2 := fun references => by
    rw [after_append, run_cons, run_nil]
  have hone : ∀ r : DesignReference,
      ((after before).step (.ask (.findDesignByFilename r.issueId r.filename))).1 = .answer (.design
        ((after before).store.tables.findDesignByFilename r.issueId r.filename)) := fun r => by
    rw [answer_ask harmed rfl rfl]
  have hnodup := hunique.nodup_found references
  obtain ⟨ix, hix, houtcome, hkept⟩ := step_resolveIndex harmed name references
  have hfind := hix.find?_eq_ite hunique
  rw [hafter]
  refine ⟨_, ix.size, hone, ?_, ?_, fun r => ?_, fun r hr d hd => ?_, fun ix' hix' => ?_,
    fun references' h => ?_⟩
  · rw [houtcome, ix.isEmpty_eq_size_beq,
      List.map_congr_left fun r hr => (hfind r).trans (if_pos hr)]
  · rw [hix.size_eq_length hnodup, Tables.length_findDesignsByReference hunique]
  · rw [outcome_indexFind hkept, hfind]
  · have hmem : d ∈ (after before).store.tables.findDesignsByReference references := by
      obtain ⟨hstored, rfl⟩ := (Tables.findDesignByFilename_eq_some_iff hunique).1 hd
      exact Tables.mem_findDesignsByReference.2 ⟨hstored, hr⟩
    rw [outcome_indexGet hkept, hix.get?_of_mem hnodup hmem]
  · rw [hkept, hix.eq_ofDesigns hnodup, hix'.eq_ofDesigns hnodup]
  · rw [hafter, session_resolveIndex_congr h]

/-- Designs of one name on two issues, and one that nothing refers to. -/
def sharedName : List Step :=
  [.insertIssue 7 "a", .insertIssue 8 "b", .insertDesign (.stored 1) "x",
    .insertDesign (.stored 2) "x", .insertDesign (.stored 2) "y"]

/-- A reference that is given twice, one that points at nothing, and one into the other issue. -/
def repeatedReferences : List DesignReference := [⟨2, "x"⟩, ⟨1, "z"⟩, ⟨1, "x"⟩, ⟨2, "x"⟩]

/-- Two designs are in the index, one of them is found by its reference, and the one that nothing
refers to is not. -/
theorem resolved_together_of_sharedName :
    (∃ found, ((after sharedName).step (.resolveIndex "ix" repeatedReferences)).1
        = .answer (.index 2 false found))
      ∧ ((after (sharedName ++ [.resolveIndex "ix" repeatedReferences])).step
        (.indexFind "ix" ⟨1, "x"⟩)).1 = .answer (.design (some ⟨3, 7, 1, "x"⟩))
      ∧ ((after (sharedName ++ [.resolveIndex "ix" repeatedReferences])).step
        (.indexFind "ix" ⟨2, "y"⟩)).1 = .answer (.design none)
      ∧ after (sharedName ++ [.resolveIndex "ix" repeatedReferences.dedup])
        = after (sharedName ++ [.resolveIndex "ix" repeatedReferences]) := by
  have harmed : (after sharedName).store.armed = none := rfl
  have hunique : (after sharedName).store.tables.FilenamesUnique := by decide
  obtain ⟨found, count, hone, hanswer, hcount, hfind, -, -, hsame⟩ :=
    resolved_together harmed hunique "ix" repeatedReferences
  have hfound : found = fun r => (after sharedName).store.tables.findDesignByFilename r.issueId
      r.filename := by
    funext r
    have hstored : ((after sharedName).step (.ask (.findDesignByFilename r.issueId r.filename))).1
        = .answer (.design
          ((after sharedName).store.tables.findDesignByFilename r.issueId r.filename)) := rfl
    injection (hone r).symm.trans hstored with hanswers
    injection hanswers
  subst hfound
  obtain rfl : count = 2 := hcount.trans (by decide)
  exact ⟨⟨_, hanswer⟩, (hfind _).trans (congrArg (Outcome.answer ∘ Answer.design) (by decide)),
    (hfind _).trans (congrArg (Outcome.answer ∘ Answer.design) (by decide)),
    hsame _ fun r => List.mem_dedup⟩

end Session

end DesignHistory
