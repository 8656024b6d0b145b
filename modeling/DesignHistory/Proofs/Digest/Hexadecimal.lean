import DesignHistory.Digest.Sha256

/-!
# Hashes as texts

A hash is handed out as a text of hexadecimal digits.  Nothing is lost by that: two such
texts are equal exactly if the hashes are.

## Main definitions

* `Sha256.Collision`: two different texts among several that have one hash.
* `Sha256.IsHex`: a text as hashes are handed out.

## Main statements

* `flatMap_code_injective`: codes one after the other can be read off.
* `Sha256.hexDigest_eq_iff`: equal texts are equal hashes.
* `Sha256.hexDigest_eq_iff_or_collision`: the texts that have one hash.
* `Sha256.isHex_hexDigest`, `Sha256.newline_notMem_hexDigest`: a hash is a line of 64 digits.
-/

namespace DesignHistory

/-- What is written in codes, each of which can be told from what follows it, can be read off them.
It serves every text that is made by writing one thing after the other. -/
theorem flatMap_code_injective {α β : Type} {code : α → List β} (hne : ∀ a, code a ≠ [])
    (hcode : ∀ {a b : α} {x y : List β}, code a ++ x = code b ++ y → a = b ∧ x = y)
    {l l' : List α} (h : l.flatMap code = l'.flatMap code) : l = l' := by
  induction l generalizing l' with
  | nil =>
    cases l' with
    | nil => rfl
    | cons b rest' => exact absurd (List.append_eq_nil_iff.1 h.symm).1 (hne b)
  | cons a rest ih =>
    cases l' with
    | nil => exact absurd (List.append_eq_nil_iff.1 h).1 (hne a)
    | cons b rest' =>
      obtain ⟨rfl, hrest⟩ := hcode h
      rw [ih hrest]

namespace Sha256

/-- Some of the texts differ and have the same hash.  Nothing here says that there is no collision:
where a hash is to tell texts apart, the alternative is one among texts that are named. -/
def Collision (texts : List String) : Prop :=
  ∃ a ∈ texts, ∃ b ∈ texts, a ≠ b ∧ digest a.toUTF8.toList = digest b.toUTF8.toList

instance (texts : List String) : Decidable (Collision texts) :=
  inferInstanceAs (Decidable (∃ a ∈ texts, ∃ b ∈ texts,
    a ≠ b ∧ digest a.toUTF8.toList = digest b.toUTF8.toList))

/-- A text has the 64 hexadecimal digits of a hash.  The digits are small letters, and there is no
other spelling of a stored hash. -/
def IsHex (s : String) : Prop :=
  s.length = 64 ∧ ∀ c ∈ s.toList, c ∈ "0123456789abcdef".toList

theorem digitChar_injective {m n : Nat} (hm : m < 16) (hn : n < 16)
    (h : Nat.digitChar m = Nat.digitChar n) : m = n := by
  have hall : ∀ m < 16, ∀ n < 16, Nat.digitChar m = Nat.digitChar n → m = n := by decide
  exact hall m hm n hn h

/-- Different bytes have different digits. -/
theorem hexByte_injective {a b : UInt8} (h : hexByte a = hexByte b) : a = b := by
  have ha := a.toNat_lt
  have hb := b.toNat_lt
  simp only [hexByte, List.cons.injEq, and_true] at h
  have hhigh := digitChar_injective (by omega) (by omega) h.1
  have hlow := digitChar_injective (by omega) (by omega) h.2
  apply UInt8.toNat_inj.1
  omega

/-- Different bytes one after the other have different digits. -/
theorem flatMap_hexByte_injective {l l' : List UInt8}
    (h : l.flatMap hexByte = l'.flatMap hexByte) : l = l' := by
  refine flatMap_code_injective (fun b => List.cons_ne_nil _ _) (fun hcodes => ?_) h
  obtain ⟨hbyte, hrest⟩ := List.append_inj hcodes rfl
  exact ⟨hexByte_injective hbyte, hrest⟩

/-- Hashes are equal as texts if they are equal. -/
theorem hexDigest_eq_iff {s t : String} :
    hexDigest s = hexDigest t ↔ digest s.toUTF8.toList = digest t.toUTF8.toList := by
  unfold hexDigest
  rw [String.ofList_inj]
  exact ⟨flatMap_hexByte_injective, fun h => by rw [h]⟩

theorem eq_of_hexDigest_eq {texts : List String} (hfree : ¬Collision texts) {s t : String}
    (hs : s ∈ texts) (ht : t ∈ texts) (h : hexDigest s = hexDigest t) : s = t :=
  Decidable.byContradiction fun hne => hfree ⟨s, hs, t, ht, hne, hexDigest_eq_iff.1 h⟩

/-- **Two texts have one hash if they are equal or collide.** This is all that is used of the hash
function wherever versions are told apart. -/
theorem hexDigest_eq_iff_or_collision {s t : String} :
    hexDigest s = hexDigest t ↔ s = t ∨ Collision [s, t] := by
  constructor
  · intro h
    by_cases hst : s = t
    · exact .inl hst
    · exact .inr ⟨s, List.mem_cons_self, t, List.mem_cons_of_mem _ List.mem_cons_self, hst,
        hexDigest_eq_iff.1 h⟩
  · rintro (rfl | ⟨a, ha, b, hb, hne, hdigest⟩)
    · rfl
    · -- the two that collide are the two given ones, in some order
      simp only [List.mem_cons, List.not_mem_nil, or_false] at ha hb
      rcases ha with rfl | rfl <;> rcases hb with rfl | rfl
      · exact absurd rfl hne
      · exact hexDigest_eq_iff.2 hdigest
      · exact hexDigest_eq_iff.2 hdigest.symm
      · exact absurd rfl hne

theorem length_digest (message : List UInt8) : (digest message).length = 32 := rfl

theorem length_flatMap_hexByte (l : List UInt8) : (l.flatMap hexByte).length = 2 * l.length := by
  induction l with
  | nil => rfl
  | cons b rest ih =>
    rw [List.flatMap_cons, List.length_append, ih, hexByte, List.length_cons, List.length_cons,
      List.length_nil, List.length_cons]
    omega

/-- A hash is written in 64 digits. -/
theorem isHex_hexDigest (s : String) : IsHex (hexDigest s) := by
  have hdigits : ∀ n < 16, Nat.digitChar n ∈ "0123456789abcdef".toList := by decide
  constructor
  · rw [hexDigest, String.length_ofList, length_flatMap_hexByte, length_digest]
  · intro c hc
    rw [hexDigest, String.toList_ofList, List.mem_flatMap] at hc
    obtain ⟨b, -, hmem⟩ := hc
    have hb := b.toNat_lt
    simp only [hexByte, List.mem_cons, List.not_mem_nil, or_false] at hmem
    rcases hmem with rfl | rfl
    · exact hdigits _ (by omega)
    · exact hdigits _ (by omega)

theorem IsHex.newline_notMem {s : String} (h : IsHex s) : '\n' ∉ s.toList :=
  fun hmem => absurd (h.2 _ hmem) (by decide)

/-- A hash is one line. -/
theorem newline_notMem_hexDigest (s : String) : '\n' ∉ (hexDigest s).toList :=
  (isHex_hexDigest s).newline_notMem

end Sha256

end DesignHistory
