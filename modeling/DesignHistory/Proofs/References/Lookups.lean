import Mathlib.Data.List.Dedup
import DesignHistory.Proofs.Store.References
import DesignHistory.ReferenceIndex

/-!
# Two ways into an index

A design of an index is found under its full key, or under its reference by way of the key.
The table from references to keys is made from the keys of the designs, in whatever order these
are listed, so a reference never leads to a key without a design or to a key that answers another
reference.  The order matters only where several projects have a design for one reference: the
design of the project whose key comes last is found.

## Main definitions

* `ReferenceIndex.Indexes`: an index of a list of designs, its keys linked in any order.

## Main statements

* `ReferenceIndex.get?_designs`: the last design of a key is found under it.
* `ReferenceIndex.Indexes.exists_key`: where a reference leads.
* `ReferenceIndex.Indexes.eq_ofDesigns`: when the order does not matter.
* `ReferenceIndex.index_in_step`: what is found in an index, and how much is in it.
-/

namespace DesignHistory

namespace SortedMap

variable {κ α : Type} [KeyOrder κ]

theorem get?_ofList_map [DecidableEq κ] (key : α → κ) (l : List α) (k : κ) :
    (ofList (l.map fun a => (key a, a))).get? k = (l.filter fun a => key a = k).getLast? := by
  rw [get?_ofList, List.filter_map, List.getLast?_map, Option.map_map]
  exact congrFun Option.map_id _

/-- A map has as many keys as a list without repetition that has the same members. -/
theorem size_eq_length {m : SortedMap κ α} {l : List κ} (hl : l.Nodup)
    (h : ∀ k, k ∈ m.keys ↔ k ∈ l) : m.size = l.length := by
  have hperm : m.keys.Perm l := (List.perm_ext_iff_of_nodup m.nodup_keys hl).2 h
  have hsize : m.keys.length = m.size := List.length_map _
  rw [← hsize, hperm.length_eq]

theorem isEmpty_iff {m : SortedMap κ α} : m.isEmpty = true ↔ m.keys = [] := by
  rw [isEmpty, List.isEmpty_iff, keys, List.map_eq_nil_iff]

end SortedMap

namespace ReferenceIndex

variable {designs : List Design} {ix : ReferenceIndex} {r : DesignReference}

theorem referenceOf_keyOf (d : Design) : referenceOf (keyOf d) = d.reference := rfl

/-! ### Designs under their keys -/

/-- Of the designs with one key the last one is found under it. -/
theorem get?_designs (designs : List Design) (key : Key) :
    (ofDesigns designs).designs.get? key
      = (designs.filter fun d => keyOf d = key).getLast? :=
  SortedMap.get?_ofList_map keyOf designs key

/-- What is found under a key is a design with this key. -/
theorem mem_of_get?_designs {key : Key} {d : Design}
    (h : (ofDesigns designs).designs.get? key = some d) : d ∈ designs ∧ keyOf d = key := by
  rw [get?_designs] at h
  obtain ⟨hd, hkey⟩ := List.mem_filter.1 (List.mem_of_getLast? h)
  exact ⟨hd, of_decide_eq_true hkey⟩

theorem mem_keys_designs {key : Key} :
    key ∈ (ofDesigns designs).designs.keys ↔ key ∈ designs.map keyOf := by
  rw [SortedMap.mem_keys_iff, get?_designs, List.getLast?_isSome, List.mem_map, ne_eq,
    List.filter_eq_nil_iff]
  simp

theorem isEmpty_eq_size_beq (ix : ReferenceIndex) : ix.isEmpty = (ix.size == 0) := by
  rw [isEmpty, SortedMap.isEmpty, size, SortedMap.size, Bool.eq_iff_iff, List.isEmpty_iff,
    beq_iff_eq, List.length_eq_zero_iff]

/-! ### References -/

theorem get?_link (keys : List Key) (r : DesignReference) :
    (link keys).get? r = (keys.filter fun key => referenceOf key = r).getLast? :=
  SortedMap.get?_ofList_map referenceOf keys r

/-- An index of a list of designs, whose keys were linked to references in some order.  The order
stands for that in which a hash map lists its keys, which is not known; what holds of every index
holds whatever it is. -/
def Indexes (ix : ReferenceIndex) (designs : List Design) : Prop :=
  ix.designs = (ofDesigns designs).designs
    ∧ ∃ keys : List Key, keys.Perm ix.designs.keys ∧ ix.byReference = link keys

theorem indexes_ofDesigns (designs : List Design) : (ofDesigns designs).Indexes designs :=
  ⟨rfl, _, List.Perm.refl _, rfl⟩

namespace Indexes

variable (h : ix.Indexes designs)

include h

theorem get?_eq (projectId : ProjectId) (issueId : IssueId) (filename : String) :
    ix.get? projectId issueId filename
      = (designs.filter fun d => keyOf d = (projectId, issueId, filename)).getLast? := by
  rw [get?, h.1, get?_designs]

/-- A reference that points at some design leads to the design of a key that answers it.  Which one
it is, if designs of several projects answer, is left to the order of the keys. -/
theorem exists_key (hr : ∃ d ∈ designs, d.reference = r) :
    ∃ key d, referenceOf key = r ∧ ix.find? r = some d ∧ ix.designs.get? key = some d := by
  obtain ⟨hdesigns, keys, hkeys, hlink⟩ := h
  obtain ⟨e, he, href⟩ := hr
  have hlisted : keyOf e ∈ keys := by
    rw [hkeys.mem_iff, hdesigns, mem_keys_designs]
    exact List.mem_map_of_mem he
  have hanswers : keyOf e ∈ keys.filter fun key => referenceOf key = r :=
    List.mem_filter.2 ⟨hlisted, decide_eq_true href⟩
  obtain ⟨key, hkey⟩ := Option.isSome_iff_exists.1
    (List.getLast?_isSome.2 (List.ne_nil_of_mem hanswers))
  obtain ⟨hmem, hreference⟩ := List.mem_filter.1 (List.mem_of_getLast? hkey)
  -- the linked key is one of the designs', so it is not dangling
  obtain ⟨d, hd⟩ := Option.isSome_iff_exists.1 (SortedMap.mem_keys_iff.1 (hkeys.mem_iff.1 hmem))
  refine ⟨key, d, of_decide_eq_true hreference, ?_, hd⟩
  rw [find?, hlink, get?_link, hkey, Option.bind_some, hd]

/-- What a reference leads to is a design that it points at. -/
theorem mem_of_find? {d : Design} (hd : ix.find? r = some d) :
    d ∈ designs ∧ d.reference = r := by
  obtain ⟨hdesigns, keys, -, hlink⟩ := h
  obtain ⟨key, hkey, hget⟩ := Option.bind_eq_some_iff.1 hd
  rw [hlink, get?_link] at hkey
  obtain ⟨-, hreference⟩ := List.mem_filter.1 (List.mem_of_getLast? hkey)
  rw [hdesigns] at hget
  obtain ⟨hmem, rfl⟩ := mem_of_get?_designs hget
  exact ⟨hmem, of_decide_eq_true hreference⟩

/-- A reference leads to a design exactly if it points at one. -/
theorem isSome_find?_iff :
    (ix.find? r).isSome = true ↔ ∃ d ∈ designs, d.reference = r := by
  constructor
  · intro hsome
    obtain ⟨d, hd⟩ := Option.isSome_iff_exists.1 hsome
    exact ⟨d, h.mem_of_find? hd⟩
  · intro hr
    obtain ⟨key, d, -, hfound, -⟩ := h.exists_key hr
    rw [hfound]
    rfl

/-- What is found under a key is a design with this key. -/
theorem mem_of_get? {projectId : ProjectId} {issueId : IssueId} {filename : String} {d : Design}
    (hd : ix.get? projectId issueId filename = some d) :
    d ∈ designs ∧ keyOf d = (projectId, issueId, filename) := by
  rw [get?, h.1] at hd
  exact mem_of_get?_designs hd

/-- A reference that leads to a design leads to the one that is found for some project. -/
theorem exists_find?_eq_get? (hsome : (ix.find? r).isSome = true) :
    ∃ projectId, ix.find? r = ix.get? projectId r.issueId r.filename := by
  obtain ⟨⟨projectId, issueId, filename⟩, d, rfl, hfound, hget⟩ :=
    h.exists_key (h.isSome_find?_iff.1 hsome)
  exact ⟨projectId, hfound.trans hget.symm⟩

/-- If a reference points at designs of one project only, it leads to the one that is found for
this project. -/
theorem find?_eq_get? {projectId : ProjectId}
    (hproject : ∀ d ∈ designs, d.reference = r → d.projectId = projectId) :
    ix.find? r = ix.get? projectId r.issueId r.filename := by
  cases hfound : ix.find? r with
  | some d =>
    obtain ⟨other, hother⟩ := h.exists_find?_eq_get? (Option.isSome_of_mem hfound)
    rw [hfound] at hother
    obtain ⟨hd, hkey⟩ := h.mem_of_get? hother.symm
    obtain rfl : d.projectId = other := congrArg Prod.fst hkey
    rw [hother, hproject d hd (h.mem_of_find? hfound).2]
  | none =>
    -- a design that is found for the project would be one that the reference points at
    refine (Option.eq_none_iff_forall_ne_some.2 fun d hget => ?_).symm
    obtain ⟨hd, hkey⟩ := h.mem_of_get? hget
    have href : d.reference = r := by
      rw [← referenceOf_keyOf, hkey]
      rfl
    have hsome := h.isSome_find?_iff.2 ⟨d, hd, href⟩
    rw [hfound] at hsome
    cases hsome

theorem size_eq : ix.size = (designs.map keyOf).dedup.length := by
  rw [size, h.1]
  exact SortedMap.size_eq_length (List.nodup_dedup _) fun key => by
    rw [mem_keys_designs, List.mem_dedup]

theorem isEmpty_iff : ix.isEmpty = true ↔ designs = [] := by
  rw [isEmpty, h.1, SortedMap.isEmpty_iff, List.eq_nil_iff_forall_not_mem]
  simp only [mem_keys_designs, ← List.eq_nil_iff_forall_not_mem, List.map_eq_nil_iff]

section Unique

variable (hunique : (designs.map Design.reference).Nodup)

include hunique

/-- If no two designs have one reference, each reference leads to the design it points at. -/
theorem find?_eq_some_iff {d : Design} :
    ix.find? r = some d ↔ d ∈ designs ∧ d.reference = r := by
  constructor
  · exact h.mem_of_find?
  · rintro ⟨hd, href⟩
    obtain ⟨-, e, -, hfound, -⟩ := h.exists_key ⟨d, hd, href⟩
    obtain ⟨he, href'⟩ := h.mem_of_find? hfound
    rw [hfound, List.inj_on_of_nodup_map hunique hd he (href.trans href'.symm)]

/-- If no two designs have one reference, each of them is found under its key. -/
theorem get?_of_mem {d : Design} (hd : d ∈ designs) :
    ix.get? d.projectId d.issueId d.filename = some d := by
  have hproject : ∀ e ∈ designs, e.reference = d.reference → e.projectId = d.projectId :=
    fun e he href => congrArg Design.projectId (List.inj_on_of_nodup_map hunique he hd href)
  have hfound := (h.find?_eq_some_iff hunique).2 ⟨hd, rfl⟩
  exact (h.find?_eq_get? hproject).symm.trans hfound

/-- If no two designs have one reference, all of them are in the index. -/
theorem size_eq_length : ix.size = designs.length := by
  have hkeys : (designs.map keyOf).Nodup := by
    refine List.Nodup.of_map referenceOf ?_
    rw [List.map_map]
    exact hunique
  rw [h.size_eq, hkeys.dedup, List.length_map]

/-- If no two designs have one reference, it does not matter in which order the keys are linked.
Then there is only one index of the designs. -/
theorem eq_ofDesigns : ix = ofDesigns designs := by
  obtain ⟨byKey, byReference⟩ := ix
  obtain ⟨rfl, keys, hkeys, rfl⟩ := h
  have hinj : ∀ key ∈ (ofDesigns designs).designs.keys,
      ∀ key' ∈ (ofDesigns designs).designs.keys, referenceOf key = referenceOf key' →
        key = key' := by
    intro key hkey key' hkey' href
    obtain ⟨d, hd, rfl⟩ := List.mem_map.1 (mem_keys_designs.1 hkey)
    obtain ⟨e, he, rfl⟩ := List.mem_map.1 (mem_keys_designs.1 hkey')
    rw [List.inj_on_of_nodup_map hunique hd he href]
  refine congrArg (ReferenceIndex.mk _) (SortedMap.ext_get? fun r => ?_)
  rw [get?_link, get?_link]
  -- one key at most answers the reference, so there is nothing to put in order
  have htrue : ∀ keys : List Key, keys.Pairwise fun _ _ => True :=
    fun _ => List.pairwise_of_forall fun _ _ => trivial
  refine congrArg List.getLast?
    (List.Perm.eq_of_pairwise ?_ (htrue _) (htrue _) (hkeys.filter _))
  intro key key' hkey hkey' _ _
  obtain ⟨hkey, href⟩ := List.mem_filter.1 hkey
  obtain ⟨hkey', href'⟩ := List.mem_filter.1 hkey'
  exact hinj key (hkeys.mem_iff.1 hkey) key' hkey'
    ((of_decide_eq_true href).trans (of_decide_eq_true href').symm)

end Unique

end Indexes

/-! ### Both ways -/

/-- **The two ways into an index stay in step.** In whatever order the keys of a list of designs are
linked, the last design of a key is found under it, and nothing is in the index but these.  A
reference leads to a design exactly if it points at one; then it leads to what is found under a key
that answers it, and if all designs that it points at are of one project, under the key with this
project. -/
theorem index_in_step (designs : List Design) :
    (ofDesigns designs).Indexes designs
      ∧ ∀ ix : ReferenceIndex, ix.Indexes designs →
        (∀ projectId issueId filename, ix.get? projectId issueId filename
            = (designs.filter fun d => d.projectId == projectId && d.issueId == issueId
              && d.filename == filename).getLast?)
          ∧ ix.size = (designs.map fun d => (d.projectId, d.issueId, d.filename)).dedup.length
          ∧ (ix.isEmpty = true ↔ designs = [])
          ∧ ∀ r : DesignReference,
            ((ix.find? r).isSome = true ↔
                ∃ d ∈ designs, d.issueId = r.issueId ∧ d.filename = r.filename)
              ∧ ((ix.find? r).isSome = true →
                ∃ projectId, ix.find? r = ix.get? projectId r.issueId r.filename)
              ∧ ∀ projectId, (∀ d ∈ designs, d.issueId = r.issueId → d.filename = r.filename →
                  d.projectId = projectId) →
                ix.find? r = ix.get? projectId r.issueId r.filename := by
  refine ⟨indexes_ofDesigns designs, fun ix h => ⟨fun projectId issueId filename => ?_, h.size_eq,
    h.isEmpty_iff, fun r => ?_⟩⟩
  · rw [h.get?_eq]
    refine congrArg List.getLast? (List.filter_congr fun d _ => ?_)
    rw [Bool.eq_iff_iff]
    simp [keyOf, and_assoc]
  · simp only [← and_imp, ← Design.reference_eq_iff]
    exact ⟨h.isSome_find?_iff, h.exists_find?_eq_get?, fun projectId hproject =>
      h.find?_eq_get? fun d hd hd' => hproject d ⟨hd, hd'⟩⟩

/-- A design that is replaced by a later one of its key, a design of another project for the same
reference, and one for another reference. -/
def replacedAndClaimed : List Design :=
  [⟨1, 7, 1, "a"⟩, ⟨2, 8, 1, "a"⟩, ⟨3, 7, 1, "a"⟩, ⟨4, 8, 2, "b"⟩]

/-- An index of the designs that links the keys from the last one to the first one. -/
def linkedBackwards : ReferenceIndex :=
  ⟨(ofDesigns replacedAndClaimed).designs,
    link (ofDesigns replacedAndClaimed).designs.keys.reverse⟩

/-- Three keys are in the index, the later design of the first one is found under it, the reference
that both projects claim leads to what one of them has, and the other reference to what its only
project has. -/
theorem index_in_step_of_replacedAndClaimed :
    linkedBackwards.size = 3 ∧ linkedBackwards.get? 7 1 "a" = some ⟨3, 7, 1, "a"⟩
      ∧ (∃ projectId, linkedBackwards.find? ⟨1, "a"⟩ = linkedBackwards.get? projectId 1 "a")
      ∧ linkedBackwards.find? ⟨2, "b"⟩ = linkedBackwards.get? 8 2 "b" := by
  have hindexes : linkedBackwards.Indexes replacedAndClaimed :=
    ⟨rfl, _, List.reverse_perm _, rfl⟩
  obtain ⟨hget, hsize, -, hfind⟩ := (index_in_step replacedAndClaimed).2 _ hindexes
  obtain ⟨hsome, hclaimed, -⟩ := hfind ⟨1, "a"⟩
  obtain ⟨-, -, hproject⟩ := hfind ⟨2, "b"⟩
  exact ⟨hsize.trans (by decide), (hget 7 1 "a").trans (by decide),
    hclaimed (hsome.2 ⟨_, List.mem_cons_self, rfl, rfl⟩), hproject 8 (by decide)⟩

end ReferenceIndex

end DesignHistory
