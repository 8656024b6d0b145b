import DesignHistory.KeyOrder

/-!
# Sorted maps

A finite map is the list of its entries in strictly increasing key order.  The
order is part of the type, so listing a map needs no sorting, two maps with the
same entries are equal, and a look-up of an inserted key depends on that key
alone.

## Main definitions

* `SortedMap`: entries with strictly increasing keys.
* `SortedMap.insert`, `SortedMap.erase`, `SortedMap.get?`: the operations, an
  insertion replacing the value of a key that is already there.
* `SortedMap.ofList`: later entries win.

## Main statements

* `SortedMap.get?_insert_self`, `SortedMap.get?_insert_of_ne`: what an insertion
  does to look-ups.
* `SortedMap.get?_erase_self`, `SortedMap.get?_erase_of_ne`, `SortedMap.get?_mapValues`: what
  a removal and a change of all values do to them.
* `SortedMap.get?_ofList`: what is found in a map that is made from entries.
* `SortedMap.mem_entries_iff`: an entry is listed iff its key finds it.
* `SortedMap.ext_get?`: a map is determined by what its keys find.
* `SortedMap.values_insert_of_last`: a value under a key after all others is listed last.
* `SortedMap.filter_values_insert`: a new value that a filter does not take.
-/

namespace DesignHistory

/-- **A finite map, listed in strictly increasing order of its keys.** The order is a part of the
map: there is no map in another order and none with a key twice, maps with the same entries are
equal, and listing a map needs no sort. -/
structure SortedMap (κ α : Type) [KeyOrder κ] where
  entries : List (κ × α) := []
  sorted : entries.Pairwise (fun p q => KeyOrder.before p.1 q.1 = true) := by simp

namespace SortedMap

open KeyOrder

variable {κ α : Type} [KeyOrder κ]

@[ext]
theorem ext {m n : SortedMap κ α} (h : m.entries = n.entries) : m = n := by
  cases m; cases n; cases h; rfl

/-- The map without entries. -/
def empty : SortedMap κ α := {}

instance : Inhabited (SortedMap κ α) := ⟨empty⟩

/-- The keys in increasing order. -/
def keys (m : SortedMap κ α) : List κ := m.entries.map Prod.fst

/-- The values in increasing order of their keys. -/
def values (m : SortedMap κ α) : List α := m.entries.map Prod.snd

/-- The number of keys. -/
def size (m : SortedMap κ α) : Nat := m.entries.length

/-- Whether there is no key at all. -/
def isEmpty (m : SortedMap κ α) : Bool := m.entries.isEmpty

/-! ### Look-up -/

/-- The value beside a key in a list of entries. -/
def find? (k : κ) : List (κ × α) → Option α
  | [] => none
  | (k', a) :: rest =>
    if before k k' || before k' k then find? k rest else some a

/-- The value of a key. -/
def get? (m : SortedMap κ α) (k : κ) : Option α := find? k m.entries

/-- Whether a key has a value. -/
def contains (m : SortedMap κ α) (k : κ) : Bool := (m.get? k).isSome

/-! ### Insertion and removal -/

/-- Entries with `k` set to `a`, at the place of `k` in the order.  A key that is there keeps its
place and gets the new value. -/
def insertEntry (k : κ) (a : α) : List (κ × α) → List (κ × α)
  | [] => [(k, a)]
  | (k', a') :: rest =>
    if before k k' then (k, a) :: (k', a') :: rest
    else if before k' k then (k', a') :: insertEntry k a rest
    else (k, a) :: rest

/-- An insertion brings in no other entry. -/
theorem mem_insertEntry {k : κ} {a : α} {p : κ × α} {l : List (κ × α)}
    (h : p ∈ insertEntry k a l) : p = (k, a) ∨ p ∈ l := by
  induction l with
  | nil => simpa [insertEntry] using h
  | cons e rest ih =>
    obtain ⟨k', a'⟩ := e
    rw [insertEntry] at h
    split at h
    · simpa using h
    · split at h
      · rcases List.mem_cons.1 h with h | h
        · simp [h]
        · rcases ih h with h | h <;> simp [h]
      · rcases List.mem_cons.1 h with h | h <;> simp [h]

/-- An insertion keeps the keys strictly increasing. -/
theorem sorted_insertEntry (k : κ) (a : α) {l : List (κ × α)}
    (h : l.Pairwise (fun p q => before p.1 q.1 = true)) :
    (insertEntry k a l).Pairwise (fun p q => before p.1 q.1 = true) := by
  induction l with
  | nil => simp [insertEntry]
  | cons e rest ih =>
    obtain ⟨k', a'⟩ := e
    have hrest := List.pairwise_cons.1 h
    rw [insertEntry]
    split
    · rename_i hk
      refine List.pairwise_cons.2 ⟨fun q hq => ?_, h⟩
      rcases List.mem_cons.1 hq with rfl | hq
      · exact hk
      · exact trans hk (hrest.1 q hq)
    · split
      · rename_i hk
        refine List.pairwise_cons.2 ⟨fun q hq => ?_, ih hrest.2⟩
        rcases mem_insertEntry hq with rfl | hq
        · exact hk
        · exact hrest.1 q hq
      · rename_i h₁ h₂
        obtain rfl : k = k' := connected (by simpa using h₁) (by simpa using h₂)
        exact List.pairwise_cons.2 ⟨fun q hq => hrest.1 q hq, hrest.2⟩

/-- The map with the value of one key set. -/
def insert (m : SortedMap κ α) (k : κ) (a : α) : SortedMap κ α :=
  ⟨insertEntry k a m.entries, sorted_insertEntry k a m.sorted⟩

/-- The map without one key. -/
def erase (m : SortedMap κ α) (k : κ) : SortedMap κ α :=
  ⟨m.entries.filter fun p => before p.1 k || before k p.1, m.sorted.filter _⟩

/-- The map with every value changed by one function. -/
def mapValues {β : Type} (f : α → β) (m : SortedMap κ α) : SortedMap κ β :=
  ⟨m.entries.map fun p => (p.1, f p.2), by
    rw [List.pairwise_map]
    exact m.sorted⟩

/-- Entries inserted one after the other, so that later ones win over earlier ones with the same
key. -/
def ofList (l : List (κ × α)) : SortedMap κ α :=
  l.foldl (fun m p => m.insert p.1 p.2) empty

/-! ### Laws of look-up -/

/-- The inserted key has the inserted value. -/
theorem find?_insertEntry_self (k : κ) (a : α) (l : List (κ × α)) :
    find? k (insertEntry k a l) = some a := by
  induction l with
  | nil => simp [insertEntry, find?, KeyOrder.irrefl]
  | cons e rest ih =>
    obtain ⟨k', a'⟩ := e
    rw [insertEntry]
    split
    · simp [find?, KeyOrder.irrefl]
    · split
      · rename_i hk
        simp [find?, hk, ih]
      · simp [find?, KeyOrder.irrefl]

/-- Every other key keeps its value.  With what is found under the key itself, this is all that is
used of an insertion. -/
theorem find?_insertEntry_of_ne {k k' : κ} (a : α) (h : k' ≠ k) (l : List (κ × α)) :
    find? k' (insertEntry k a l) = find? k' l := by
  have hne : (before k' k || before k k') = true := before_or_before h
  induction l with
  | nil => simp [insertEntry, find?, hne]
  | cons e rest ih =>
    obtain ⟨k'', a''⟩ := e
    rw [insertEntry]
    split
    · simp [find?, hne]
    · split
      · rename_i hk
        by_cases hc : (before k' k'' || before k'' k') = true <;> simp [find?, hc, ih]
      · rename_i h₁ h₂
        obtain rfl : k = k'' := connected (by simpa using h₁) (by simpa using h₂)
        simp [find?, hne]

/-- An inserted key is found with its value. -/
@[simp]
theorem get?_insert_self (m : SortedMap κ α) (k : κ) (a : α) :
    (m.insert k a).get? k = some a :=
  find?_insertEntry_self k a m.entries

/-- An insertion leaves the other keys alone. -/
theorem get?_insert_of_ne {k k' : κ} (m : SortedMap κ α) (a : α) (h : k' ≠ k) :
    (m.insert k a).get? k' = m.get? k' :=
  find?_insertEntry_of_ne a h m.entries

@[simp]
theorem get?_empty (k : κ) : (empty : SortedMap κ α).get? k = none := rfl

/-- An entry is listed exactly when its key finds it.  The order of the keys is what makes the first
entry that is met the only one. -/
theorem mem_entries_iff {m : SortedMap κ α} {k : κ} {a : α} :
    (k, a) ∈ m.entries ↔ m.get? k = some a := by
  obtain ⟨l, hl⟩ := m
  show (k, a) ∈ l ↔ find? k l = some a
  induction l with
  | nil => simp [find?]
  | cons e rest ih =>
    obtain ⟨k', a'⟩ := e
    have hrest := List.pairwise_cons.1 hl
    rw [find?]
    split
    · rename_i hk
      have hne : k ≠ k' := by
        rintro rfl
        simp [KeyOrder.irrefl] at hk
      simp [hne, ih hrest.2]
    · rename_i hk
      obtain ⟨h₁, h₂⟩ : before k k' = false ∧ before k' k = false := by simpa using hk
      obtain rfl := connected h₁ h₂
      constructor
      · intro h
        rcases List.mem_cons.1 h with h | h
        · simp [(Prod.mk.inj h).2]
        · have hlt := hrest.1 _ h
          simp [KeyOrder.irrefl] at hlt
      · intro h
        simp [Option.some.inj h]

/-- An insertion of what is there changes nothing.  The maps are compared as wholes, so that a step
which puts back what it has found leaves the same session. -/
theorem insert_of_get? {m : SortedMap κ α} {k : κ} {a : α} (h : m.get? k = some a) :
    m.insert k a = m := by
  have hentries : ∀ {l : List (κ × α)}, find? k l = some a →
      l.Pairwise (fun p q => before p.1 q.1 = true) → insertEntry k a l = l := by
    intro l hl hsorted
    induction l with
    | nil => cases hl
    | cons e rest ih =>
      obtain ⟨k', a'⟩ := e
      have hrest := List.pairwise_cons.1 hsorted
      rw [find?] at hl
      split at hl
      · -- the key is found among the entries after this one
        have hbefore : before k' k = true :=
          hrest.1 _ (mem_entries_iff (m := ⟨rest, hrest.2⟩).2 hl)
        rw [insertEntry, if_neg (by simp [asymm hbefore]), if_pos hbefore, ih hl hrest.2]
      · rename_i hk
        obtain ⟨h₁, h₂⟩ : before k k' = false ∧ before k' k = false := by simpa using hk
        obtain rfl := connected h₁ h₂
        obtain rfl := Option.some.inj hl
        rw [insertEntry, if_neg (by simp [h₁]), if_neg (by simp [h₁])]
  exact ext (hentries h m.sorted)

theorem get?_insert [DecidableEq κ] (m : SortedMap κ α) (k : κ) (a : α) (k' : κ) :
    (m.insert k a).get? k' = if k' = k then some a else m.get? k' := by
  by_cases h : k' = k
  · rw [if_pos h, h, get?_insert_self]
  · rw [if_neg h, get?_insert_of_ne m a h]

/-- A removed key has no value. -/
@[simp]
theorem get?_erase_self (m : SortedMap κ α) (k : κ) : (m.erase k).get? k = none := by
  cases h : (m.erase k).get? k with
  | none => rfl
  | some a =>
    have hmem := mem_entries_iff.2 h
    simp [erase, KeyOrder.irrefl] at hmem

/-- A removal leaves the other keys alone. -/
theorem get?_erase_of_ne {k k' : κ} (m : SortedMap κ α) (h : k' ≠ k) :
    (m.erase k).get? k' = m.get? k' := by
  have hkept : ∀ a, (k', a) ∈ (m.erase k).entries ↔ (k', a) ∈ m.entries := by
    intro a
    simp [erase, before_or_before h]
  refine Option.ext fun a => ?_
  rw [← mem_entries_iff, ← mem_entries_iff, hkept a]

/-- Changed values are found under the same keys. -/
@[simp]
theorem get?_mapValues {β : Type} (f : α → β) (m : SortedMap κ α) (k : κ) :
    (m.mapValues f).get? k = (m.get? k).map f := by
  obtain ⟨l, hl⟩ := m
  show find? k (l.map fun p => (p.1, f p.2)) = (find? k l).map f
  clear hl
  induction l with
  | nil => rfl
  | cons e rest ih =>
    rw [List.map_cons, find?, find?]
    split
    · exact ih
    · rfl

/-- Of entries that are inserted one after the other the last one of a key counts, or what
was there before if there is none. -/
theorem get?_foldl_insert [DecidableEq κ] (l : List (κ × α))
    (m : SortedMap κ α) (k : κ) :
    (l.foldl (fun m p => m.insert p.1 p.2) m).get? k
      = (((l.filter fun p => p.1 == k).getLast?).map Prod.snd).or (m.get? k) := by
  induction l generalizing m with
  | nil => rfl
  | cons p rest ih =>
    rw [List.foldl_cons, ih, get?_insert]
    by_cases hp : k = p.1
    · have hcons : (p :: rest).filter (fun q => q.1 == k)
          = p :: rest.filter fun q => q.1 == k := List.filter_cons_of_pos (by simp [hp])
      rw [if_pos hp, hcons, List.getLast?_cons]
      cases (rest.filter fun q => q.1 == k).getLast? <;> rfl
    · have hcons : (p :: rest).filter (fun q => q.1 == k)
          = rest.filter fun q => q.1 == k := List.filter_cons_of_neg (by simp [Ne.symm hp])
      rw [if_neg hp, hcons]

/-- In a map that is made from entries, the last one of a key counts. -/
theorem get?_ofList [DecidableEq κ] (l : List (κ × α)) (k : κ) :
    (ofList l).get? k = ((l.filter fun p => p.1 == k).getLast?).map Prod.snd := by
  rw [ofList, get?_foldl_insert, get?_empty, Option.or_none]

/-! ### Keys and values -/

/-- A key that comes after all others is listed after them.  Ids are given out in increasing order,
so every table grows at its end. -/
theorem values_insert_of_last {m : SortedMap κ α} {k : κ}
    (h : ∀ k' ∈ m.keys, before k' k = true) (a : α) : (m.insert k a).values = m.values ++ [a] := by
  have hentries : ∀ {l : List (κ × α)}, (∀ p ∈ l, before p.1 k = true) →
      insertEntry k a l = l ++ [(k, a)] := by
    intro l hl
    induction l with
    | nil => rfl
    | cons e rest ih =>
      have hlast := hl e List.mem_cons_self
      have hnot : ¬before k e.1 = true := by simp [asymm hlast]
      rw [insertEntry, if_neg hnot, if_pos hlast, ih fun p hp => hl p (List.mem_cons_of_mem _ hp),
        List.cons_append]
  have hkeys : ∀ p ∈ m.entries, before p.1 k = true := fun p hp =>
    h p.1 (List.mem_map.2 ⟨p, hp, rfl⟩)
  show (insertEntry k a m.entries).map Prod.snd = _
  rw [hentries hkeys, List.map_append]
  rfl

/-- A new key whose value a filter does not take changes nothing for the filter. -/
theorem filter_values_insert {m : SortedMap κ α} {k : κ} (hk : m.get? k = none) {p : α → Bool}
    {a : α} (ha : p a = false) : (m.insert k a).values.filter p = m.values.filter p := by
  have hentries : ∀ {l : List (κ × α)}, find? k l = none →
      ((insertEntry k a l).map Prod.snd).filter p = (l.map Prod.snd).filter p := by
    intro l hl
    induction l with
    | nil => exact List.filter_cons_of_neg (Bool.eq_false_iff.1 ha)
    | cons e rest ih =>
      obtain ⟨k', a'⟩ := e
      rw [find?] at hl
      split at hl
      · rename_i hne
        rw [insertEntry]
        split
        · exact List.filter_cons_of_neg (Bool.eq_false_iff.1 ha)
        · rename_i hk'
          rw [if_pos ((Bool.or_eq_true_iff.1 hne).resolve_left hk'), List.map_cons, List.map_cons,
            List.filter_cons, List.filter_cons, ih hl]
      · cases hl
  exact hentries hk

/-- A key is listed exactly when it has a value. -/
theorem mem_keys_iff {m : SortedMap κ α} {k : κ} : k ∈ m.keys ↔ (m.get? k).isSome := by
  rw [keys, List.mem_map]
  constructor
  · rintro ⟨⟨k, a⟩, hmem, rfl⟩
    rw [mem_entries_iff.1 hmem]
    rfl
  · intro h
    obtain ⟨a, ha⟩ := Option.isSome_iff_exists.1 h
    exact ⟨(k, a), mem_entries_iff.2 ha, rfl⟩

/-- A value is listed exactly when some key finds it. -/
theorem mem_values_iff {m : SortedMap κ α} {a : α} : a ∈ m.values ↔ ∃ k, m.get? k = some a := by
  rw [values, List.mem_map]
  constructor
  · rintro ⟨⟨k, a⟩, hmem, rfl⟩
    exact ⟨k, mem_entries_iff.1 hmem⟩
  · rintro ⟨k, hk⟩
    exact ⟨(k, a), mem_entries_iff.2 hk, rfl⟩

/-- If every value is under a key of its own, a value is listed exactly when this key finds it. -/
theorem mem_values_iff_of_keyed {m : SortedMap κ α} {keyOf : α → κ}
    (h : ∀ {k a}, m.get? k = some a → keyOf a = k) {a : α} :
    a ∈ m.values ↔ m.get? (keyOf a) = some a := by
  rw [mem_values_iff]
  constructor
  · rintro ⟨k, hk⟩
    rw [h hk]
    exact hk
  · exact fun hk => ⟨keyOf a, hk⟩

theorem pairwise_keys (m : SortedMap κ α) :
    m.keys.Pairwise fun a b => before a b = true := by
  rw [keys, List.pairwise_map]
  exact m.sorted

theorem nodup_keys (m : SortedMap κ α) : m.keys.Nodup :=
  m.pairwise_keys.imp ne_of_before

/-- Maps in which every key finds the same are equal. -/
theorem ext_get? {m n : SortedMap κ α} (h : ∀ k, m.get? k = n.get? k) : m = n := by
  have hnodup : ∀ m : SortedMap κ α, m.entries.Nodup := fun m =>
    m.sorted.imp fun hpq heq => ne_of_before hpq (congrArg Prod.fst heq)
  have hperm : m.entries.Perm n.entries := by
    refine (List.perm_ext_iff_of_nodup (hnodup m) (hnodup n)).2 fun ⟨k, a⟩ => ?_
    rw [mem_entries_iff, mem_entries_iff, h k]
  refine ext (List.Perm.eq_of_pairwise (fun p q _ _ hpq hqp => ?_) m.sorted n.sorted hperm)
  rw [asymm hpq] at hqp
  cases hqp

theorem isEmpty_eq_false {m : SortedMap κ α} {k : κ} {a : α} (h : m.get? k = some a) :
    m.isEmpty = false := by
  have hmem := mem_entries_iff.2 h
  cases hm : m.entries with
  | nil => rw [hm] at hmem; cases hmem
  | cons e rest => rw [isEmpty, hm]; rfl

end SortedMap

end DesignHistory
