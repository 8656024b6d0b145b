import DesignHistory.KeyOrder

/-!
# Sorting and searching lists

Three list operations in a `KeyOrder`: a stable sort by a key, the normal form
of a list used as a set, and a search by halving.

## Main definitions

* `sortOn`: stable, so elements with equal keys keep their order.
* `distinct`: the strictly increasing list with the same members.
* `bisect`: looks a key up by comparing it with the middle element and going on
  in one half.

## Main statements

* `sortOn_perm`, `pairwise_sortOn`: a sort rearranges, into increasing order.
* `pairwise_ties_sortOn`, `filter_sortOn`: a sort keeps the order of elements with
  equal keys.
* `sortOn_eq_of_perm`: elements with different keys have one sorted order.
* `mem_distinct`, `pairwise_distinct`: the two properties that fix a normal form.
* `bisect_eq_true_iff`: on a strictly increasing list halving finds exactly the
  members.
-/

namespace DesignHistory

open KeyOrder

variable {α κ : Type} [KeyOrder κ]

/-! ### Stable sort -/

/-- Puts an element in front of the first one whose key is not smaller. -/
def insertOn (key : α → κ) (x : α) : List α → List α
  | [] => [x]
  | y :: ys => if before (key y) (key x) then y :: insertOn key x ys else x :: y :: ys

/-- **Stable sort by a key.** It is insertion sort, by recursion on the list, so that it can be
evaluated and its laws are proved by induction. -/
def sortOn (key : α → κ) : List α → List α
  | [] => []
  | x :: xs => insertOn key x (sortOn key xs)

/-- An insertion adds the one element. -/
theorem insertOn_perm (key : α → κ) (x : α) (l : List α) :
    (insertOn key x l).Perm (x :: l) := by
  induction l with
  | nil => simp [insertOn]
  | cons y ys ih =>
    rw [insertOn]
    split
    · exact (List.Perm.cons y ih).trans (List.Perm.swap x y ys)
    · exact List.Perm.refl _

/-- A sort rearranges. -/
theorem sortOn_perm (key : α → κ) (l : List α) : (sortOn key l).Perm l := by
  induction l with
  | nil => exact List.Perm.refl _
  | cons x xs ih => exact (insertOn_perm key x _).trans (List.Perm.cons x ih)

/-- An insertion keeps a sorted list sorted. -/
theorem pairwise_insertOn (key : α → κ) (x : α) {l : List α}
    (h : l.Pairwise fun a b => before (key b) (key a) = false) :
    (insertOn key x l).Pairwise fun a b => before (key b) (key a) = false := by
  induction l with
  | nil => simp [insertOn]
  | cons y ys ih =>
    have hys := List.pairwise_cons.1 h
    rw [insertOn]
    split
    · rename_i hyx
      refine List.pairwise_cons.2 ⟨fun z hz => ?_, ih hys.2⟩
      rcases List.mem_cons.1 ((insertOn_perm key x ys).mem_iff.1 hz) with rfl | hz
      · exact asymm hyx
      · exact hys.1 z hz
    · rename_i hyx
      have hyx : before (key y) (key x) = false := by simpa using hyx
      refine List.pairwise_cons.2 ⟨fun z hz => ?_, h⟩
      rcases List.mem_cons.1 hz with rfl | hz
      · exact hyx
      · cases hzx : before (key z) (key x) with
        | false => rfl
        | true =>
          have hzy := hys.1 z hz
          cases hxy : before (key x) (key y) with
          | true => rw [trans hzx hxy] at hzy; exact hzy
          | false => rw [connected hyx hxy, hzx] at hzy; exact hzy

/-- The result of a sort is in increasing order. -/
theorem pairwise_sortOn (key : α → κ) (l : List α) :
    (sortOn key l).Pairwise fun a b => before (key b) (key a) = false := by
  induction l with
  | nil => exact List.Pairwise.nil
  | cons x xs ih => exact pairwise_insertOn key x ih

/-- An insertion keeps what holds of neighbours with equal keys, if it holds between the
element and everything else. -/
theorem pairwise_ties_insertOn {R : α → α → Prop} (key : α → κ) {x : α} {l : List α}
    (hx : ∀ y ∈ l, R x y)
    (h : l.Pairwise fun a b => before (key a) (key b) = false → R a b) :
    (insertOn key x l).Pairwise fun a b => before (key a) (key b) = false → R a b := by
  induction l with
  | nil => simp [insertOn]
  | cons y ys ih =>
    have hys := List.pairwise_cons.1 h
    rw [insertOn]
    split
    · rename_i hyx
      refine List.pairwise_cons.2 ⟨fun z hz htie => ?_,
        ih (fun z hz => hx z (List.mem_cons_of_mem _ hz)) hys.2⟩
      rcases List.mem_cons.1 ((insertOn_perm key x ys).mem_iff.1 hz) with rfl | hz
      · rw [hyx] at htie
        cases htie
      · exact hys.1 z hz htie
    · exact List.pairwise_cons.2 ⟨fun z hz _ => hx z hz, h⟩

/-- A sort is stable: what holds along a list holds between elements with equal keys
afterwards. -/
theorem pairwise_ties_sortOn {R : α → α → Prop} (key : α → κ) {l : List α}
    (h : l.Pairwise R) :
    (sortOn key l).Pairwise fun a b => before (key a) (key b) = false → R a b := by
  induction l with
  | nil => exact List.Pairwise.nil
  | cons x xs ih =>
    obtain ⟨hx, hxs⟩ := List.pairwise_cons.1 h
    exact pairwise_ties_insertOn key (fun y hy => hx y ((sortOn_perm key xs).mem_iff.1 hy)) (ih hxs)

/-- An insertion puts the element in front of those with its key. -/
theorem filter_insertOn [DecidableEq κ] (key : α → κ) (k : κ) (x : α) (l : List α) :
    (insertOn key x l).filter (fun a => key a == k) = (x :: l).filter fun a => key a == k := by
  induction l with
  | nil => rfl
  | cons y ys ih =>
    rw [insertOn]
    split
    · rename_i hyx
      -- the two have different keys, so at most one of them is left
      have hne := ne_of_before hyx
      rw [List.filter_cons, ih]
      by_cases hx : key x = k
      · have hy : key y ≠ k := fun hy => hne (hy.trans hx.symm)
        simp [hx, hy]
      · simp [List.filter_cons, hx]
    · rfl

/-- A sort is stable: the elements with one key are left in the order they were in. -/
theorem filter_sortOn [DecidableEq κ] (key : α → κ) (k : κ) (l : List α) :
    (sortOn key l).filter (fun a => key a == k) = l.filter fun a => key a == k := by
  induction l with
  | nil => rfl
  | cons x xs ih =>
    rw [sortOn, filter_insertOn, List.filter_cons, ih, List.filter_cons]

/-- In a strictly increasing list elements are told apart by their keys. -/
theorem eq_of_key_eq {key : α → κ} {l : List α}
    (h : l.Pairwise fun a b => before (key a) (key b) = true) {a b : α} (ha : a ∈ l) (hb : b ∈ l)
    (hkey : key a = key b) : a = b := by
  induction l with
  | nil => cases ha
  | cons x xs ih =>
    obtain ⟨hx, hxs⟩ := List.pairwise_cons.1 h
    rcases List.mem_cons.1 ha with hax | ha' <;> rcases List.mem_cons.1 hb with hbx | hb'
    · rw [hax, hbx]
    · exact absurd (hax ▸ hkey) (ne_of_before (hx b hb'))
    · exact absurd (hbx ▸ hkey.symm) (ne_of_before (hx a ha'))
    · exact ih hxs ha' hb'

/-- A sort of elements of which those with equal keys are equal gives the one list of them that
is in increasing order. -/
theorem sortOn_eq_of_perm_of_inj {key : α → κ} {l l' : List α} (h : l.Perm l')
    (hsorted : l'.Pairwise fun a b => before (key b) (key a) = false)
    (hkey : ∀ a ∈ l', ∀ b ∈ l', key a = key b → a = b) : sortOn key l = l' := by
  have hperm := (sortOn_perm key l).trans h
  have hanti : ∀ a b, a ∈ sortOn key l → b ∈ l' → before (key b) (key a) = false →
      before (key a) (key b) = false → a = b := by
    intro a b ha hb hab hba
    exact hkey a (hperm.mem_iff.1 ha) b hb (connected hba hab)
  exact List.Perm.eq_of_pairwise hanti (pairwise_sortOn key l) hsorted hperm

/-- A sort of elements that are told apart by their keys gives the one list of them that is strictly
increasing.  So a list can be recognised as the result of a sort without a look at how it is
sorted. -/
theorem sortOn_eq_of_perm {key : α → κ} {l l' : List α} (h : l.Perm l')
    (hsorted : l'.Pairwise fun a b => before (key a) (key b) = true) : sortOn key l = l' :=
  sortOn_eq_of_perm_of_inj h (hsorted.imp KeyOrder.asymm) fun _ ha _ hb =>
    eq_of_key_eq hsorted ha hb

theorem sortOn_self_eq_of_perm {l l' : List κ} (h : l.Perm l') :
    sortOn (fun k : κ => k) l = sortOn (fun k : κ => k) l' :=
  sortOn_eq_of_perm_of_inj (h.trans (sortOn_perm _ l').symm) (pairwise_sortOn _ l')
    fun _ _ _ _ hkey => hkey

/-- Keys that compare alike sort alike. -/
theorem sortOn_congr {μ : Type} [KeyOrder μ] {key : α → κ} {key' : α → μ}
    (h : ∀ a b, before (key a) (key b) = before (key' a) (key' b)) (l : List α) :
    sortOn key l = sortOn key' l := by
  have hinsert : ∀ (x : α) (l : List α), insertOn key x l = insertOn key' x l := by
    intro x l
    induction l with
    | nil => rfl
    | cons y ys ih => rw [insertOn, insertOn, h, ih]
  induction l with
  | nil => rfl
  | cons x xs ih => rw [sortOn, sortOn, ih, hinsert]

/-- A list of images is sorted as its preimages are. -/
theorem sortOn_map {β : Type} (key : β → κ) (f : α → β) (l : List α) :
    sortOn key (l.map f) = (sortOn (fun a => key (f a)) l).map f := by
  have hinsert : ∀ (x : α) (l : List α),
      insertOn key (f x) (l.map f) = (insertOn (fun a => key (f a)) x l).map f := by
    intro x l
    induction l with
    | nil => rfl
    | cons y ys ih =>
      rw [List.map_cons, insertOn, insertOn, ih]
      split <;> rfl
  induction l with
  | nil => rfl
  | cons x xs ih => rw [List.map_cons, sortOn, ih, hinsert]; rfl

/-! ### Lists as sets -/

/-- Puts a key at its place unless it is already there. -/
def insertDistinct (x : κ) : List κ → List κ
  | [] => [x]
  | y :: ys =>
    if before x y then x :: y :: ys
    else if before y x then y :: insertDistinct x ys
    else y :: ys

/-- The strictly increasing list with the same members.  It is a normal form: lists with the same
members have the same one. -/
def distinct (l : List κ) : List κ := l.foldr insertDistinct []

/-- The members after an insertion. -/
theorem mem_insertDistinct {x z : κ} {l : List κ} :
    z ∈ insertDistinct x l ↔ z = x ∨ z ∈ l := by
  induction l with
  | nil => simp [insertDistinct]
  | cons y ys ih =>
    rw [insertDistinct]
    split
    · simp
    · split
      · simp only [List.mem_cons, ih]
        constructor
        · rintro (h | h | h) <;> simp [h]
        · rintro (h | h | h) <;> simp [h]
      · rename_i h₁ h₂
        obtain rfl : x = y := connected (by simpa using h₁) (by simpa using h₂)
        simp

/-- A normal form has the members of its list. -/
@[simp]
theorem mem_distinct {z : κ} {l : List κ} : z ∈ distinct l ↔ z ∈ l := by
  induction l with
  | nil => simp [distinct]
  | cons x xs ih =>
    show z ∈ insertDistinct x (distinct xs) ↔ _
    simp [mem_insertDistinct, ih]

theorem distinct_eq_nil_iff {l : List κ} : distinct l = [] ↔ l = [] := by
  simp only [List.eq_nil_iff_forall_not_mem, mem_distinct]

/-- An insertion keeps a strictly increasing list strictly increasing. -/
theorem pairwise_insertDistinct (x : κ) {l : List κ}
    (h : l.Pairwise fun a b => before a b = true) :
    (insertDistinct x l).Pairwise fun a b => before a b = true := by
  induction l with
  | nil => simp [insertDistinct]
  | cons y ys ih =>
    have hys := List.pairwise_cons.1 h
    rw [insertDistinct]
    split
    · rename_i hxy
      refine List.pairwise_cons.2 ⟨fun z hz => ?_, h⟩
      rcases List.mem_cons.1 hz with rfl | hz
      · exact hxy
      · exact trans hxy (hys.1 z hz)
    · split
      · rename_i hyx
        refine List.pairwise_cons.2 ⟨fun z hz => ?_, ih hys.2⟩
        rcases mem_insertDistinct.1 hz with rfl | hz
        · exact hyx
        · exact hys.1 z hz
      · exact h

/-- A normal form is strictly increasing. -/
theorem pairwise_distinct (l : List κ) :
    (distinct l).Pairwise fun a b => before a b = true := by
  induction l with
  | nil => exact List.Pairwise.nil
  | cons x xs ih => exact pairwise_insertDistinct x ih

/-! ### Search by halving -/

/-- Whether a key is found by comparing it with the middle element and going on
in the half that can still hold it. -/
def bisect (x : κ) (l : List κ) : Bool :=
  match h : l.drop (l.length / 2) with
  | [] => false
  | y :: ys =>
    if before x y then bisect x (l.take (l.length / 2))
    else if before y x then bisect x ys
    else true
termination_by l.length
decreasing_by
  · have hl := congrArg List.length h
    simp only [List.length_drop, List.length_cons] at hl
    rw [List.length_take]
    omega
  · have hl := congrArg List.length h
    simp only [List.length_drop, List.length_cons] at hl
    omega

/-- On a strictly increasing list halving finds exactly the members.  Without the order it would
find some of them only, which is why requested pins are kept in normal form. -/
theorem bisect_eq_true_iff {x : κ} {l : List κ}
    (h : l.Pairwise fun a b => before a b = true) : bisect x l = true ↔ x ∈ l := by
  fun_induction bisect x l with
  | case1 l hd =>
    have hlen := congrArg List.length hd
    simp only [List.length_drop, List.length_nil] at hlen
    have : l = [] := List.length_eq_zero_iff.1 (by omega)
    simp [this]
  | case2 l y ys hd hxy ih =>
    have hsplit : l = l.take (l.length / 2) ++ y :: ys := by rw [← hd, List.take_append_drop]
    have hp := h
    rw [hsplit, List.pairwise_append] at hp
    rw [ih hp.1]
    constructor
    · exact List.mem_of_mem_take
    · intro hx
      rw [hsplit] at hx
      rcases List.mem_append.1 hx with hx | hx
      · exact hx
      · rcases List.mem_cons.1 hx with rfl | hx
        · simp [KeyOrder.irrefl] at hxy
        · have := asymm ((List.pairwise_cons.1 hp.2.1).1 x hx)
          rw [hxy] at this
          cases this
  | case3 l y ys hd hxy hyx ih =>
    have hsplit : l = l.take (l.length / 2) ++ y :: ys := by rw [← hd, List.take_append_drop]
    have hp := h
    rw [hsplit, List.pairwise_append] at hp
    rw [ih (List.pairwise_cons.1 hp.2.1).2]
    constructor
    · intro hx
      rw [hsplit]
      simp [hx]
    · intro hx
      rw [hsplit] at hx
      rcases List.mem_append.1 hx with hx | hx
      · have := hp.2.2 x hx y (by simp)
        exact absurd this hxy
      · rcases List.mem_cons.1 hx with rfl | hx
        · simp [KeyOrder.irrefl] at hyx
        · exact hx
  | case4 l y ys hd hxy hyx =>
    obtain rfl : x = y := connected (by simpa using hxy) (by simpa using hyx)
    have hsplit : l = l.take (l.length / 2) ++ x :: ys := by rw [← hd, List.take_append_drop]
    have : x ∈ l := by rw [hsplit]; simp
    simp [this]

@[simp]
theorem bisect_nil (x : κ) : bisect x [] = false :=
  Bool.eq_false_iff.2 fun h => List.not_mem_nil ((bisect_eq_true_iff List.Pairwise.nil).1 h)

end DesignHistory
