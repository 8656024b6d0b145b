import DesignHistory.Pin
import DesignHistory.Proofs.Text.Decimal

/-!
# The text form of a pin

A pin of two ids that are not negative has one text, and this text is the only one that
is read as the pin.  Which texts these are can be said without the reader: two canonical
numbers of 64 bits with a point between them.

## Main definitions

* `Pin.IsHalf`: digits that may stand on one side of the point.
* `Pin.IsIdentity`: the texts that name a pin.

## Main statements

* `Pin.read_eq_ok_iff`: what is read as a pin.
* `Pin.exists_read_iff`: when something is read as a pin.
* `Pin.encode_injective`: different pins have different texts.
* `Pin.decode_canonical`: all of it, for texts.
-/

namespace DesignHistory.Pin

/-! ### The point -/

/-- A text is split at its first point. -/
theorem splitPoint?_append {before after : List Char} (h : '.' ∉ before) :
    splitPoint? (before ++ '.' :: after) = some (before, after) := by
  induction before with
  | nil => rfl
  | cons c rest ih =>
    have hc : c ≠ '.' := fun hc => h (hc ▸ List.mem_cons_self)
    have hrest : '.' ∉ rest := fun hrest => h (List.mem_cons_of_mem _ hrest)
    rw [List.cons_append, splitPoint?, if_neg hc, ih hrest]
    rfl

/-- A text that was split has its parts around the first point. -/
theorem eq_append_of_splitPoint? {cs before after : List Char}
    (h : splitPoint? cs = some (before, after)) : cs = before ++ '.' :: after := by
  induction cs generalizing before with
  | nil => cases h
  | cons c rest ih =>
    rw [splitPoint?] at h
    split at h
    · rename_i hc
      cases h
      rw [hc, List.nil_append]
    · obtain ⟨⟨front, back⟩, hrest, hparts⟩ := Option.map_eq_some_iff.1 h
      cases hparts
      rw [ih hrest, List.cons_append]

theorem point_notMem_ofInt64 (n : Int64) : '.' ∉ (Decimal.ofInt64 n).toList :=
  Decimal.notMem_ofInt64 (by decide) (by decide) n

theorem toList_encode (p : Pin) :
    p.encode.toList
      = (Decimal.ofInt64 p.designId).toList ++ '.' :: (Decimal.ofInt64 p.versionId).toList := by
  simp [encode]

theorem splitPoint?_encode (p : Pin) :
    splitPoint? p.encode.toList
      = some ((Decimal.ofInt64 p.designId).toList, (Decimal.ofInt64 p.versionId).toList) := by
  rw [toList_encode, splitPoint?_append (point_notMem_ofInt64 p.designId)]

/-- Different pins have different texts, also if some of their ids are negative.  The point is found
in the text because no number contains one. -/
theorem encode_injective : Function.Injective encode := by
  intro p q h
  have hparts : some ((Decimal.ofInt64 p.designId).toList, (Decimal.ofInt64 p.versionId).toList)
      = some ((Decimal.ofInt64 q.designId).toList, (Decimal.ofInt64 q.versionId).toList) := by
    rw [← splitPoint?_encode p, ← splitPoint?_encode q, h]
  simp only [Option.some.injEq, Prod.mk.injEq] at hparts
  obtain ⟨d, v⟩ := p
  obtain ⟨e, w⟩ := q
  obtain rfl : d = e := Decimal.ofInt64_injective (String.toList_injective hparts.1)
  obtain rfl : v = w := Decimal.ofInt64_injective (String.toList_injective hparts.2)
  rfl

/-! ### One half -/

/-- Digits that may stand on one side of the point: a number as it is written, and not larger than
an id can be.  Zeros in front are excluded, so that a number has one spelling. -/
def IsHalf (digits : List Char) : Prop :=
  Decimal.Canonical digits ∧ Decimal.value digits ≤ Decimal.maxInt64

/-- A half is read as the number it denotes, and nothing else is read.  The right-hand side says
what is on the page, without saying how it is checked. -/
theorem readHalf_eq_ok_iff {half : Half} {digits : List Char} {n : Int64} :
    readHalf half digits = .ok n ↔ IsHalf digits ∧ n = Int64.ofNat (Decimal.value digits) := by
  unfold readHalf IsHalf Decimal.Canonical
  split
  · rename_i hdigits
    simp only [reduceCtorEq, false_iff, not_and]
    rintro ⟨⟨hne, hall, -⟩, -⟩
    rw [Bool.or_eq_true, List.isEmpty_iff, Bool.not_eq_true', ← Bool.not_eq_true,
      List.all_eq_true] at hdigits
    rcases hdigits with hempty | hsome
    · exact absurd hempty hne
    · exact absurd hall hsome
  rename_i hdigits
  simp only [Bool.or_eq_true, List.isEmpty_iff, Bool.not_eq_true', not_or, Bool.not_eq_false,
    List.all_eq_true] at hdigits
  split
  · rename_i hzero
    simp only [Bool.and_eq_true, decide_eq_true_eq, beq_iff_eq] at hzero
    simp only [reduceCtorEq, false_iff, not_and]
    rintro ⟨⟨-, -, hcanonical⟩, -⟩
    rw [hcanonical hzero.2] at hzero
    exact absurd hzero.1 (by decide)
  rename_i hzero
  have hcanonical : digits.head? = some '0' → digits = ['0'] := by
    intro hhead
    simp only [hhead, beq_self_eq_true, Bool.and_true, decide_eq_true_eq, Nat.not_lt]
        at hzero
    cases digits with
    | nil => exact absurd rfl hdigits.1
    | cons c rest =>
      have hrest : rest = [] := by
        simpa using hzero
      rw [hrest, Option.some.inj hhead]
  split
  · rename_i hvalue
    rw [Except.ok.injEq, eq_comm]
    exact ⟨fun hn => ⟨⟨⟨hdigits.1, hdigits.2, hcanonical⟩, hvalue⟩, hn⟩, And.right⟩
  · rename_i hvalue
    simp only [reduceCtorEq, false_iff, not_and]
    rintro ⟨-, hle⟩
    exact absurd hle hvalue

theorem toInt_ofNat_of_le {m : Nat} (h : m ≤ Decimal.maxInt64) : (Int64.ofNat m).toInt = m := by
  have hmax : Decimal.maxInt64 = 9223372036854775807 := rfl
  exact Int64.toInt_ofNat_of_lt (by omega)

/-- What is read as an id is how the id is written, and no id is negative.  The bound keeps the
number from turning negative. -/
theorem readHalf_eq_ok_iff_eq {half : Half} {digits : List Char} {n : Int64} :
    readHalf half digits = .ok n ↔ 0 ≤ n ∧ digits = (Decimal.ofInt64 n).toList := by
  rw [readHalf_eq_ok_iff]
  constructor
  · rintro ⟨⟨hcanonical, hvalue⟩, rfl⟩
    have hint := toInt_ofNat_of_le hvalue
    have hnonneg : 0 ≤ Int64.ofNat (Decimal.value digits) := by
      rw [Int64.le_iff_toInt_le, hint]
      exact Int.natCast_nonneg _
    refine ⟨hnonneg, ?_⟩
    rw [Decimal.ofInt64_of_nonneg hnonneg, hint, Int.toNat_natCast,
      Decimal.toList_ofNat_value hcanonical]
  · rintro ⟨hnonneg, rfl⟩
    have hint : 0 ≤ n.toInt := Int64.le_iff_toInt_le.1 hnonneg
    have hlt := n.toInt_lt
    have hmax : Decimal.maxInt64 = 9223372036854775807 := rfl
    have hle : n.toInt.toNat ≤ Decimal.maxInt64 := by omega
    rw [Decimal.ofInt64_of_nonneg hnonneg, IsHalf, Decimal.value_ofNat]
    refine ⟨⟨Decimal.canonical_ofNat _, hle⟩, Int64.toInt_inj.1 ?_⟩
    rw [toInt_ofNat_of_le hle, Int.toNat_of_nonneg hint]

/-! ### Pins -/

/-- The halves of what is read as a pin.  Halves have no point in them, so that the text is cut at
its only one. -/
theorem read_eq_ok_iff_halves {cs : List Char} {p : Pin} :
    read cs = .ok p ↔
      ∃ design version, cs = design ++ '.' :: version
        ∧ readHalf .design design = .ok p.designId
        ∧ readHalf .version version = .ok p.versionId := by
  have hpoint : ∀ {half digits n}, readHalf half digits = .ok n → '.' ∉ digits := by
    intro half digits n hread
    rw [(readHalf_eq_ok_iff_eq.1 hread).2]
    exact point_notMem_ofInt64 n
  constructor
  · intro h
    unfold read at h
    split at h
    · cases h
    · rename_i design version hsplit
      split at h
      · cases h
      · cases hdesign : readHalf .design design with
        | error e => rw [hdesign] at h; cases h
        | ok d =>
          cases hversion : readHalf .version version with
          | error e => rw [hdesign, hversion] at h; cases h
          | ok v =>
            rw [hdesign, hversion] at h
            cases h
            exact ⟨design, version, eq_append_of_splitPoint? hsplit, hdesign, hversion⟩
  · rintro ⟨design, version, rfl, hdesign, hversion⟩
    have hone : ¬version.contains '.' = true := by
      rw [List.contains_iff_mem]
      exact hpoint hversion
    simp only [read, splitPoint?_append (hpoint hdesign), if_neg hone, hdesign, hversion]
    rfl

/-- What is read as a pin is the text form of the pin, and no id of it is negative.  The right-hand
side does not mention reading, so that uniqueness follows from the injectivity of writing. -/
theorem read_eq_ok_iff {cs : List Char} {p : Pin} :
    read cs = .ok p ↔ 0 ≤ p.designId ∧ 0 ≤ p.versionId ∧ cs = p.encode.toList := by
  rw [read_eq_ok_iff_halves]
  simp only [readHalf_eq_ok_iff_eq, toList_encode]
  constructor
  · rintro ⟨design, version, rfl, ⟨hdesign, rfl⟩, hversion, rfl⟩
    exact ⟨hdesign, hversion, rfl⟩
  · rintro ⟨hdesign, hversion, rfl⟩
    exact ⟨_, _, rfl, ⟨hdesign, rfl⟩, hversion, rfl⟩

/-- The texts that name a pin: two halves with a point between them, which is the only one since
halves have digits alone.  It describes the form of the text and not how it is read. -/
def IsIdentity (s : String) : Prop :=
  ∃ design version, s.toList = design ++ '.' :: version ∧ IsHalf design ∧ IsHalf version

/-- Something is read as a pin exactly if it has the form of an identity. -/
theorem exists_read_iff {s : String} : (∃ p, read s.toList = .ok p) ↔ IsIdentity s := by
  simp only [read_eq_ok_iff_halves, readHalf_eq_ok_iff]
  constructor
  · rintro ⟨p, design, version, hs, ⟨hdesign, -⟩, hversion, -⟩
    exact ⟨design, version, hs, hdesign, hversion⟩
  · rintro ⟨design, version, hs, hdesign, hversion⟩
    exact ⟨⟨_, _⟩, design, version, hs, ⟨hdesign, rfl⟩, hversion, rfl⟩

theorem decode_eq_ok_iff {s : String} {p : Pin} : decode s = .ok p ↔ read s.toList = .ok p := by
  unfold decode
  cases read s.toList with
  | ok q => simp [Except.mapError]
  | error e => simp [Except.mapError]

/-- A text names a pin if it is the text form of the pin, and no id of it is negative. -/
theorem decode?_eq_some_iff {s : String} {p : Pin} :
    decode? s = some p ↔ 0 ≤ p.designId ∧ 0 ≤ p.versionId ∧ s = p.encode := by
  have hok : decode? s = some p ↔ decode s = .ok p := by
    rw [decode?]
    cases decode s <;> simp [Except.toOption]
  rw [hok, decode_eq_ok_iff, read_eq_ok_iff, String.toList_inj]

theorem decode_eq_error {s : String} (h : ¬∃ p, read s.toList = .ok p) :
    ∃ defect, decode s = .error ⟨s, defect⟩ := by
  unfold decode
  cases hread : read s.toList with
  | ok p => exact absurd ⟨p, hread⟩ h
  | error e => exact ⟨e, rfl⟩

/-- **Reading texts as pins and writing pins with ids that are not negative undo each other.** What
is read are the identities, each as a pin of its own; every other text is reported unchanged.
Writing tells all pins apart. -/
theorem decode_canonical :
    (∀ s p, decode s = .ok p ↔ 0 ≤ p.designId ∧ 0 ≤ p.versionId ∧ s = p.encode)
      ∧ (∀ s, (∃ p, decode s = .ok p) ↔ IsIdentity s)
      ∧ (∀ s, ¬IsIdentity s → ∃ defect, decode s = .error ⟨s, defect⟩)
      ∧ (∀ p, 0 ≤ p.designId → 0 ≤ p.versionId → decode p.encode = .ok p)
      ∧ (∀ s p, decode s = .ok p → p.encode = s)
      ∧ (∀ s s' p, decode s = .ok p → decode s' = .ok p → s = s')
      ∧ Function.Injective encode := by
  have hdecode : ∀ s p, decode s = .ok p ↔ 0 ≤ p.designId ∧ 0 ≤ p.versionId ∧ s = p.encode := by
    intro s p
    rw [decode_eq_ok_iff, read_eq_ok_iff, String.toList_inj]
  refine ⟨hdecode, ?_, ?_, ?_, ?_, ?_, encode_injective⟩
  · intro s
    simp only [decode_eq_ok_iff, exists_read_iff]
  · intro s hs
    exact decode_eq_error fun hread => hs (exists_read_iff.1 hread)
  · intro p hdesign hversion
    exact (hdecode p.encode p).2 ⟨hdesign, hversion, rfl⟩
  · intro s p hs
    exact ((hdecode s p).1 hs).2.2.symm
  · intro s s' p hs hs'
    rw [((hdecode s p).1 hs).2.2, ((hdecode s' p).1 hs').2.2]

/-- The largest id is read, and the number after it is reported. -/
theorem decode_canonical_at_limit :
    decode "0.9223372036854775807" = .ok ⟨0, 9223372036854775807⟩
      ∧ ∃ defect, decode "0.9223372036854775808" = .error ⟨"0.9223372036854775808", defect⟩ := by
  obtain ⟨hdecode, hidentity, hmalformed, -⟩ := decode_canonical
  refine ⟨(hdecode _ _).2 (by decide), hmalformed _ fun h => ?_⟩
  obtain ⟨p, hp⟩ := (hidentity _).2 h
  have herror : decode "0.9223372036854775808"
      = .error ⟨"0.9223372036854775808", .tooLarge .version⟩ := by decide
  rw [herror] at hp
  cases hp

end DesignHistory.Pin
