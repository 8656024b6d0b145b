import Mathlib.Algebra.Group.Nat.Defs
import Mathlib.Data.List.Basic
import DesignHistory.Text.Decimal

/-!
# Decimal numbers, written and read

A natural number is written in one way only, as digits of which the first is no zero
unless it is the only one.  Such digits are the written form of what they denote, so
writing and reading undo each other, and different numbers are written differently.  Where
a sign and leading zeros are admitted, a number has many texts, and each of them is read as
the number that it denotes.

## Main definitions

* `Decimal.Canonical`: digits as they stand in a written number.
* `Decimal.Denotes`: the integer that a text denotes, sign and leading zeros admitted.

## Main statements

* `Decimal.value_ofNat`, `Decimal.toList_ofNat_value`: reading undoes writing, and
  writing undoes reading.
* `Decimal.ofInt64_injective`: different numbers are written differently.
* `Decimal.length_padded`, `Decimal.value_padded`: zeros in front of a number.
* `Decimal.readInt64_eq_ok_iff`: the texts that are read as a 64-bit number.
-/

namespace DesignHistory.Decimal

/-! ### Digits -/

theorem toNat_of_isDigit {c : Char} (h : c.isDigit = true) : 48 ≤ c.toNat ∧ c.toNat ≤ 57 := by
  simp only [Char.isDigit, Bool.and_eq_true, decide_eq_true_eq, ge_iff_le,
    UInt32.le_iff_toNat_le] at h
  exact h

/-- A digit is the one that its value is written with. -/
theorem digitChar_of_isDigit {c : Char} (h : c.isDigit = true) :
    Nat.digitChar (c.toNat - '0'.toNat) = c := by
  obtain ⟨hlow, hhigh⟩ := toNat_of_isDigit h
  have hzero : '0'.toNat = 48 := rfl
  apply Char.toNat_inj.1
  rw [Nat.toNat_digitChar_of_lt_ten (by omega)]
  omega

theorem toDigits_of_isDigit {c : Char} (h : c.isDigit = true) :
    Nat.toDigits 10 (c.toNat - '0'.toNat) = [c] := by
  obtain ⟨-, hhigh⟩ := toNat_of_isDigit h
  have hzero : '0'.toNat = 48 := rfl
  rw [Nat.toDigits_of_lt_base (by omega), digitChar_of_isDigit h]

/-- Digits read after a number that is not zero are written after it. -/
theorem toDigits_ofDigitChars {digits : List Char} (h : ∀ c ∈ digits, c.isDigit = true) {n : Nat}
    (hn : 0 < n) :
    Nat.toDigits 10 (Nat.ofDigitChars 10 digits n) = Nat.toDigits 10 n ++ digits := by
  induction digits generalizing n with
  | nil => simp [Nat.ofDigitChars]
  | cons c rest ih =>
    have hc := h c List.mem_cons_self
    obtain ⟨-, hhigh⟩ := toNat_of_isDigit hc
    have hzero : '0'.toNat = 48 := rfl
    have hstep : Nat.ofDigitChars 10 (c :: rest) n
        = Nat.ofDigitChars 10 rest (10 * n + (c.toNat - '0'.toNat)) := rfl
    rw [hstep, ih (fun d hd => h d (List.mem_cons_of_mem _ hd)) (by omega),
      ← Nat.toDigits_append_toDigits (by decide) hn (by omega), toDigits_of_isDigit hc,
      List.append_assoc, List.singleton_append]

/-! ### Natural numbers -/

/-- Digits as they stand in a written number: at least one, and no zero in front of others.  A
number has one canonical spelling. -/
def Canonical (digits : List Char) : Prop :=
  digits ≠ [] ∧ (∀ c ∈ digits, c.isDigit = true) ∧ (digits.head? = some '0' → digits = ['0'])

/-- A number is read as what it is. -/
theorem value_ofNat (n : Nat) : value (ofNat n).toList = n := by
  rw [value, ofNat, String.toList_ofList]
  exact Nat.ofDigitChars_toDigits (by decide) (by decide)

theorem isDigit_of_mem_ofNat {n : Nat} {c : Char} (h : c ∈ (ofNat n).toList) :
    c.isDigit = true := by
  rw [ofNat, String.toList_ofList] at h
  exact Nat.isDigit_of_mem_toDigits (by decide) (by decide) h

/-- Only the number zero is written with a zero in front. -/
theorem head?_toDigits {n : Nat} (hn : 0 < n) : (Nat.toDigits 10 n).head? ≠ some '0' := by
  induction n using Nat.strongRecOn with
  | ind n ih =>
    by_cases hten : n < 10
    · rw [Nat.toDigits_of_lt_base hten, List.head?_cons, Ne, Option.some.injEq,
        Nat.digitChar_eq_zero]
      omega
    · rw [Nat.toDigits_of_base_le (by decide) (by omega),
        List.head?_append_of_ne_nil _ Nat.toDigits_ne_nil]
      exact ih (n / 10) (by omega) (by omega)

theorem canonical_ofNat (n : Nat) : Canonical (ofNat n).toList := by
  refine ⟨?_, fun c hc => isDigit_of_mem_ofNat hc, fun hhead => ?_⟩
  · rw [ofNat, String.toList_ofList]
    exact Nat.toDigits_ne_nil
  · rw [ofNat, String.toList_ofList] at hhead ⊢
    rcases Nat.eq_zero_or_pos n with rfl | hn
    · rfl
    · exact absurd hhead (head?_toDigits hn)

/-- Canonical digits are how the number is written that they denote. -/
theorem toList_ofNat_value {digits : List Char} (h : Canonical digits) :
    (ofNat (value digits)).toList = digits := by
  obtain ⟨hne, hdigits, hzero⟩ := h
  rw [ofNat, String.toList_ofList]
  cases digits with
  | nil => exact absurd rfl hne
  | cons c rest =>
    by_cases hc : c = '0'
    · rw [hzero (by rw [hc]; rfl)]
      rfl
    -- after a first digit that is no zero, every further digit is written behind it
    · have hdigit := hdigits c List.mem_cons_self
      have hcode : c.toNat ≠ 48 := fun hcode => hc (Char.toNat_inj.1 hcode)
      have hzero : '0'.toNat = 48 := rfl
      have hstep : value (c :: rest) = Nat.ofDigitChars 10 rest (c.toNat - '0'.toNat) := by
        simp [value, Nat.ofDigitChars]
      obtain ⟨hlow, -⟩ := toNat_of_isDigit hdigit
      rw [hstep, toDigits_ofDigitChars (fun d hd => hdigits d (List.mem_cons_of_mem _ hd))
        (by omega), toDigits_of_isDigit hdigit, List.singleton_append]

theorem ofNat_injective {m n : Nat} (h : ofNat m = ofNat n) : m = n := by
  rw [← value_ofNat m, ← value_ofNat n, h]

/-! ### Signed numbers -/

/-- Signed numbers are written in digits and a minus sign. -/
theorem isDigit_or_minus_of_mem_ofInt64 {n : Int64} {c : Char} (h : c ∈ (ofInt64 n).toList) :
    c.isDigit = true ∨ c = '-' := by
  unfold ofInt64 at h
  cases hn : n.toInt with
  | ofNat m =>
    rw [hn] at h
    exact .inl (isDigit_of_mem_ofNat h)
  | negSucc m =>
    rw [hn, ofInt, String.toList_append] at h
    rcases List.mem_append.1 h with hminus | hdigit
    · exact .inr (List.mem_singleton.1 hminus)
    · exact .inl (isDigit_of_mem_ofNat hdigit)

/-- A character that is neither a digit nor a minus sign is in no written number. -/
theorem notMem_ofInt64 {c : Char} (hdigit : c.isDigit = false) (hminus : c ≠ '-') (n : Int64) :
    c ∉ (ofInt64 n).toList := by
  intro hmem
  rcases isDigit_or_minus_of_mem_ofInt64 hmem with h | h
  · rw [hdigit] at h
    cases h
  · exact hminus h

/-- A number that is not negative is written without a sign. -/
theorem ofInt_ne_minus_append (m : Nat) (s : String) : ofNat m ≠ "-" ++ s := by
  intro h
  have hmem : '-' ∈ (ofNat m).toList := by
    rw [h, String.toList_append]
    exact List.mem_append_left _ List.mem_cons_self
  exact absurd (isDigit_of_mem_ofNat hmem) (by decide)

/-- Different integers are written differently. -/
theorem ofInt_injective {m n : Int} (h : ofInt m = ofInt n) : m = n := by
  cases m with
  | ofNat m =>
    cases n with
    | ofNat n => exact congrArg Int.ofNat (ofNat_injective h)
    | negSucc n => exact absurd h (ofInt_ne_minus_append m _)
  | negSucc m =>
    cases n with
    | ofNat n => exact absurd h.symm (ofInt_ne_minus_append n _)
    | negSucc n =>
      have hlists := congrArg String.toList h
      simp only [ofInt, String.toList_append, List.append_cancel_left_eq] at hlists
      have hsucc := ofNat_injective (String.toList_injective hlists)
      rw [Nat.succ.inj hsucc]

/-- Different 64-bit numbers are written differently. -/
theorem ofInt64_injective {m n : Int64} (h : ofInt64 m = ofInt64 n) : m = n :=
  Int64.toInt_inj.1 (ofInt_injective h)

/-- A 64-bit number that is not negative is written as a natural number. -/
theorem ofInt64_of_nonneg {n : Int64} (h : 0 ≤ n) : ofInt64 n = ofNat n.toInt.toNat := by
  have hint : 0 ≤ n.toInt := Int64.le_iff_toInt_le.1 h
  unfold ofInt64
  cases hn : n.toInt with
  | ofNat m => rfl
  | negSucc m => rw [hn] at hint; exact absurd hint (by simp)

/-! ### Digits in front of a text -/

section Front

variable {digits rest : List Char} (hdigits : ∀ c ∈ digits, c.isDigit = true)
  (hrest : ∀ c ∈ rest.head?, c.isDigit = false)

include hdigits hrest

/-- Digits are read up to what is no digit. -/
theorem takeWhile_digits : (digits ++ rest).takeWhile Char.isDigit = digits := by
  rw [List.takeWhile_append_of_pos hdigits]
  cases rest with
  | nil => rw [List.takeWhile_nil, List.append_nil]
  | cons c cs =>
    have hc : ¬c.isDigit = true := by
      rw [hrest c rfl]
      exact Bool.false_ne_true
    rw [List.takeWhile_cons_of_neg hc, List.append_nil]

/-- What follows the digits is left. -/
theorem dropWhile_digits : (digits ++ rest).dropWhile Char.isDigit = rest := by
  rw [List.dropWhile_append_of_pos hdigits]
  cases rest with
  | nil => rfl
  | cons c cs =>
    have hc : ¬c.isDigit = true := by
      rw [hrest c rfl]
      exact Bool.false_ne_true
    rw [List.dropWhile_cons_of_neg hc]

end Front

/-! ### Numbers of a fixed width -/

theorem toList_padded (width n : Nat) :
    (padded width n).toList
      = List.replicate (width - (Nat.toDigits 10 n).length) '0' ++ Nat.toDigits 10 n :=
  String.toList_ofList

/-- A number that is short enough has the width. -/
theorem length_padded {width n : Nat} (hwidth : 0 < width) (h : n < 10 ^ width) :
    (padded width n).toList.length = width := by
  have hlength := (Nat.length_toDigits_le_iff (by decide) hwidth).2 h
  rw [toList_padded, List.length_append, List.length_replicate, Nat.sub_add_cancel hlength]

theorem isDigit_of_mem_padded {width n : Nat} {c : Char} (h : c ∈ (padded width n).toList) :
    c.isDigit = true := by
  rw [toList_padded] at h
  rcases List.mem_append.1 h with h | h
  · rw [(List.mem_replicate.1 h).2]
    rfl
  · exact Nat.isDigit_of_mem_toDigits (by decide) (by decide) h

/-- Zeros in front do not change what is read. -/
theorem value_padded (width n : Nat) : value (padded width n).toList = n := by
  rw [toList_padded, value, Nat.ofDigitChars_append, Nat.ofDigitChars_replicate_zero, Nat.mul_zero]
  exact Nat.ofDigitChars_toDigits (by decide) (by decide)

/-! ### Reading signed numbers -/

/-- A text denotes an integer if it has digits, at least one, after an optional sign; zeros may
stand in front of other digits.  Nothing is said about ranges here. -/
def Denotes (text : String) (n : Int) : Prop :=
  ∃ digits : List Char, digits ≠ [] ∧ (∀ c ∈ digits, c.isDigit = true)
    ∧ ((text.toList = digits ∨ text.toList = '+' :: digits) ∧ n = value digits
      ∨ text.toList = '-' :: digits ∧ n = -(value digits : Int))

/-- Digits read after a number do not make it smaller. -/
theorem le_ofDigitChars (digits : List Char) (n : Nat) : n ≤ Nat.ofDigitChars 10 digits n := by
  induction digits generalizing n with
  | nil => exact Nat.le_refl n
  | cons c rest ih =>
    have hstep : Nat.ofDigitChars 10 (c :: rest) n
        = Nat.ofDigitChars 10 rest (10 * n + (c.toNat - '0'.toNat)) := rfl
    rw [hstep]
    exact Nat.le_trans (by omega) (ih _)

/-- Characters are read exactly if all of them are digits and the number that they make stays
within the bound. -/
theorem readDigits_eq_ok_iff {bound : Nat} {overflow : ReadError} {digits : List Char} {n m : Nat}
    (hn : n ≤ bound) :
    readDigits bound overflow n digits = .ok m
      ↔ (∀ c ∈ digits, c.isDigit = true) ∧ m = Nat.ofDigitChars 10 digits n ∧ m ≤ bound := by
  induction digits generalizing n with
  | nil =>
    rw [readDigits, Except.ok.injEq]
    constructor
    · rintro rfl
      exact ⟨fun c hc => absurd hc List.not_mem_nil, rfl, hn⟩
    · rintro ⟨-, hm, -⟩
      exact hm.symm
  | cons c rest ih =>
    have hstep : Nat.ofDigitChars 10 (c :: rest) n
        = Nat.ofDigitChars 10 rest (10 * n + (c.toNat - '0'.toNat)) := rfl
    rw [readDigits, List.forall_mem_cons, hstep]
    by_cases hdigit : c.isDigit = true
    · rw [if_pos hdigit]
      by_cases hle : 10 * n + (c.toNat - '0'.toNat) ≤ bound
      · simp only [if_pos hle, ih hle, hdigit, true_and]
      · simp only [if_neg hle, reduceCtorEq, false_iff, not_and]
        rintro - rfl hbound
        exact hle (Nat.le_trans (le_ofDigitChars _ _) hbound)
    · rw [if_neg hdigit]
      exact iff_of_false (by simp) fun h => hdigit h.1.1

/-- Digits are read as a 64-bit number that depends on what they denote, if the bound lets pass
exactly what leads to a number in range. -/
theorem map_readDigits_eq_ok_iff {bound : Nat} {overflow : ReadError} {digits : List Char}
    {n : Int64} (f : Int → Int)
    (hf : ∀ m : Nat, m ≤ bound ↔ -(maxInt64 : Int) - 1 ≤ f m ∧ f m ≤ maxInt64) :
    ((readDigits bound overflow 0 digits).map fun m => Int64.ofInt (f m)) = .ok n
      ↔ (∀ c ∈ digits, c.isDigit = true) ∧ n.toInt = f (value digits) := by
  have hread := fun m => @readDigits_eq_ok_iff bound overflow digits 0 m (Nat.zero_le _)
  have hmax : (maxInt64 : Int) = 9223372036854775807 := rfl
  constructor
  · intro h
    cases hm : readDigits bound overflow 0 digits with
    | error e =>
      rw [hm] at h
      cases h
    | ok m =>
      rw [hm] at h
      obtain rfl : Int64.ofInt (f m) = n := Except.ok.inj h
      obtain ⟨hdigits, rfl, hle⟩ := (hread m).1 hm
      obtain ⟨hlow, hhigh⟩ := (hf _).1 hle
      exact ⟨hdigits, Int64.toInt_ofInt_of_le (by omega) (by omega)⟩
  · rintro ⟨hdigits, hn⟩
    have hlow := n.le_toInt
    have hhigh := n.toInt_lt
    have hle := (hf (value digits)).2 ⟨by omega, by omega⟩
    rw [(hread _).2 ⟨hdigits, rfl, hle⟩]
    show Except.ok (Int64.ofInt (f (value digits))) = _
    rw [← hn, Int64.ofInt_toInt]

/-- What a text with a plus sign denotes. -/
theorem denotes_iff_of_plus {text : String} {digits : List Char} (h : text.toList = '+' :: digits)
    {n : Int} :
    Denotes text n ↔ digits ≠ [] ∧ (∀ c ∈ digits, c.isDigit = true) ∧ n = value digits := by
  unfold Denotes
  rw [h]
  constructor
  · rintro ⟨ds, hne, hdigits, ⟨rfl | hds, hn⟩ | ⟨hds, -⟩⟩
    · exact absurd (hdigits '+' List.mem_cons_self) (by decide)
    · obtain ⟨-, rfl⟩ := List.cons.inj hds
      exact ⟨hne, hdigits, hn⟩
    · cases hds
  · rintro ⟨hne, hdigits, hn⟩
    exact ⟨digits, hne, hdigits, .inl ⟨.inr rfl, hn⟩⟩

/-- What a text with a minus sign denotes. -/
theorem denotes_iff_of_minus {text : String} {digits : List Char} (h : text.toList = '-' :: digits)
    {n : Int} :
    Denotes text n
      ↔ digits ≠ [] ∧ (∀ c ∈ digits, c.isDigit = true) ∧ n = -(value digits : Int) := by
  unfold Denotes
  rw [h]
  constructor
  · rintro ⟨ds, hne, hdigits, ⟨rfl | hds, -⟩ | ⟨hds, hn⟩⟩
    · exact absurd (hdigits '-' List.mem_cons_self) (by decide)
    · cases hds
    · obtain ⟨-, rfl⟩ := List.cons.inj hds
      exact ⟨hne, hdigits, hn⟩
  · rintro ⟨hne, hdigits, hn⟩
    exact ⟨digits, hne, hdigits, .inr ⟨rfl, hn⟩⟩

/-- What a text without a sign denotes. -/
theorem denotes_iff_of_unsigned {text : String} (hplus : ∀ ds, text.toList ≠ '+' :: ds)
    (hminus : ∀ ds, text.toList ≠ '-' :: ds) {n : Int} :
    Denotes text n ↔ text.toList ≠ [] ∧ (∀ c ∈ text.toList, c.isDigit = true)
      ∧ n = value text.toList := by
  constructor
  · rintro ⟨ds, hne, hdigits, ⟨rfl | hds, hn⟩ | ⟨hds, -⟩⟩
    · exact ⟨hne, hdigits, hn⟩
    · exact absurd hds (hplus ds)
    · exact absurd hds (hminus ds)
  · rintro ⟨hne, hdigits, hn⟩
    exact ⟨_, hne, hdigits, .inl ⟨.inl rfl, hn⟩⟩

/-- **A text is read as a 64-bit number exactly if it denotes the number.** A number out of range is
denoted by a text and not read. -/
theorem readInt64_eq_ok_iff {text : String} {n : Int64} :
    readInt64 text = .ok n ↔ Denotes text n.toInt := by
  have hmax : (maxInt64 : Int) = 9223372036854775807 := rfl
  have hunsigned : ∀ m : Nat, m ≤ maxInt64 ↔ -(maxInt64 : Int) - 1 ≤ m ∧ (m : Int) ≤ maxInt64 := by
    omega
  have hnegated : ∀ m : Nat, m ≤ maxInt64 + 1
      ↔ -(maxInt64 : Int) - 1 ≤ -(m : Int) ∧ -(m : Int) ≤ maxInt64 := by
    omega
  unfold readInt64
  split
  · rename_i hempty
    rw [denotes_iff_of_unsigned (by simp [hempty]) (by simp [hempty])]
    exact iff_of_false (by simp) fun h => h.1 hempty
  · rename_i hplus
    rw [denotes_iff_of_plus hplus]
    exact iff_of_false (by simp) fun h => h.1 rfl
  · rename_i hminus
    rw [denotes_iff_of_minus hminus]
    exact iff_of_false (by simp) fun h => h.1 rfl
  · rename_i digits hne hplus
    rw [denotes_iff_of_plus hplus, map_readDigits_eq_ok_iff (fun m => m) hunsigned]
    exact (and_iff_right (by rintro rfl; exact hne rfl)).symm
  · rename_i digits hne hminus
    rw [denotes_iff_of_minus hminus, map_readDigits_eq_ok_iff (fun m => -m) hnegated]
    exact (and_iff_right (by rintro rfl; exact hne rfl)).symm
  · rename_i hne _ _ hplus hminus
    rw [denotes_iff_of_unsigned hplus hminus, map_readDigits_eq_ok_iff (fun m => m) hunsigned]
    exact (and_iff_right hne).symm

end DesignHistory.Decimal
