/-!
# Key orders

Every finite collection in this library is kept in a fixed order: tables by
their ids, requested pairs by design and then version, names by their
characters.  `KeyOrder` is the one notion of order they share, a strict total
order that is decided by a Boolean test.

## Main definitions

* `KeyOrder`: the class, with its three laws.
* `KeyOrder.pullback`: the order of a type read through an injective key.

Ids compare as signed numbers, texts character by character, and pairs by
their first component and then by their second.
-/

namespace DesignHistory

/-- **A strict total order given by a Boolean test.** The maps and the sorted lists of the
development are built on it, and so can be evaluated.  The laws are fields of the class: there is no
instance without them. -/
class KeyOrder (κ : Type) where
  /-- Whether the first key comes strictly before the second. -/
  before : κ → κ → Bool
  irrefl : ∀ a, before a a = false
  trans : ∀ {a b c}, before a b = true → before b c = true → before a c = true
  connected : ∀ {a b}, before a b = false → before b a = false → a = b

namespace KeyOrder

variable {κ : Type} [KeyOrder κ]

theorem asymm {a b : κ} (h : before a b = true) : before b a = false := by
  cases hba : before b a with
  | false => rfl
  | true => exact absurd (trans h hba) (by simp [irrefl])

theorem ne_of_before {a b : κ} (h : before a b = true) : a ≠ b := by
  rintro rfl
  simp [irrefl] at h

/-- Of two different keys one comes before the other. -/
theorem before_or_before {a b : κ} (h : a ≠ b) : (before a b || before b a) = true := by
  cases hab : before a b with
  | true => rfl
  | false =>
    cases hba : before b a with
    | true => rfl
    | false => exact absurd (connected hab hba) h

/-- No key comes before itself. -/
instance : Std.Irrefl fun a b : κ => before a b = true where
  irrefl _ h := ne_of_before h rfl

/-- Two keys do not come before each other. -/
instance : Std.Antisymm fun a b : κ => before a b = true where
  antisymm a b hab hba := by
    rw [asymm hab] at hba
    cases hba

/-- The order of a type whose values are told apart by a key. -/
@[reducible]
def pullback {α : Type} (key : α → κ) (injective : ∀ {a b}, key a = key b → a = b) :
    KeyOrder α where
  before a b := before (key a) (key b)
  irrefl a := irrefl (key a)
  trans h₁ h₂ := trans h₁ h₂
  connected h₁ h₂ := injective (connected h₁ h₂)

end KeyOrder

/-- Signed 64-bit ids in numerical order. -/
instance : KeyOrder Int64 where
  before a b := decide (a < b)
  irrefl a := by simp
  trans h₁ h₂ := by
    simp only [decide_eq_true_eq] at *
    exact Int64.lt_trans h₁ h₂
  connected h₁ h₂ := by
    simp only [decide_eq_false_iff_not, Int64.not_lt] at *
    exact Int64.le_antisymm h₂ h₁

/-- Texts in the order of their characters. -/
instance : KeyOrder String where
  before a b := decide (a < b)
  irrefl a := by simp
  trans h₁ h₂ := by
    simp only [decide_eq_true_eq] at *
    exact String.lt_trans h₁ h₂
  connected h₁ h₂ := by
    simp only [decide_eq_false_iff_not, String.not_lt] at *
    exact String.le_antisymm h₂ h₁

/-- Pairs by the first component, ties by the second. -/
instance {κ μ : Type} [KeyOrder κ] [KeyOrder μ] : KeyOrder (κ × μ) where
  before p q :=
    KeyOrder.before p.1 q.1 || (!KeyOrder.before q.1 p.1 && KeyOrder.before p.2 q.2)
  irrefl p := by simp [KeyOrder.irrefl]
  trans := by
    rintro ⟨a₁, a₂⟩ ⟨b₁, b₂⟩ ⟨c₁, c₂⟩ hab hbc
    simp only [Bool.or_eq_true, Bool.and_eq_true, Bool.not_eq_true'] at *
    rcases hab with hab | ⟨hba, hab₂⟩
    · rcases hbc with hbc | ⟨hcb, -⟩
      · exact .inl (KeyOrder.trans hab hbc)
      · left
        cases hbc : KeyOrder.before b₁ c₁ with
        | true => exact KeyOrder.trans hab hbc
        | false => exact KeyOrder.connected hbc hcb ▸ hab
    · cases hab : KeyOrder.before a₁ b₁ with
      | true =>
        rcases hbc with hbc | ⟨hcb, -⟩
        · exact .inl (KeyOrder.trans hab hbc)
        · left
          cases hbc : KeyOrder.before b₁ c₁ with
          | true => exact KeyOrder.trans hab hbc
          | false => exact KeyOrder.connected hbc hcb ▸ hab
      | false =>
        obtain rfl := KeyOrder.connected hab hba
        rcases hbc with hbc | ⟨hcb, hbc₂⟩
        · exact .inl hbc
        · exact .inr ⟨hcb, KeyOrder.trans hab₂ hbc₂⟩
  connected := by
    rintro ⟨a₁, a₂⟩ ⟨b₁, b₂⟩ hab hba
    simp only [Bool.or_eq_false_iff, Bool.and_eq_false_iff, Bool.not_eq_false'] at *
    obtain ⟨hab₁, hab₂⟩ := hab
    obtain ⟨hba₁, hba₂⟩ := hba
    obtain rfl := KeyOrder.connected hab₁ hba₁
    have h₁ : KeyOrder.before a₂ b₂ = false := by
      rcases hab₂ with h | h
      · simp [KeyOrder.irrefl] at h
      · exact h
    have h₂ : KeyOrder.before b₂ a₂ = false := by
      rcases hba₂ with h | h
      · simp [KeyOrder.irrefl] at h
      · exact h
    rw [KeyOrder.connected h₁ h₂]

end DesignHistory
