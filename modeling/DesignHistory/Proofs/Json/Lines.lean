import DesignHistory.Json.Printer
import DesignHistory.Proofs.Text.Decimal

/-!
# JSON on one line

The written form of a JSON value has no line break in it, whatever texts are in the value:
in a text a line break is written as an escape.

## Main definitions

* `Json.OneLine`: a text without a line break.

## Main statements

* `Json.oneLine_render`: a value is written on one line.
-/

namespace DesignHistory.Json

/-- A text has no line break in it. -/
def OneLine (s : String) : Prop := '\n' ∉ s.toList

instance (s : String) : Decidable (OneLine s) := inferInstanceAs (Decidable ('\n' ∉ s.toList))

theorem OneLine.append {s t : String} (hs : OneLine s) (ht : OneLine t) : OneLine (s ++ t) := by
  rw [OneLine, String.toList_append, List.mem_append, not_or]
  exact ⟨hs, ht⟩

theorem oneLine_ofList {cs : List Char} (h : '\n' ∉ cs) : OneLine (String.ofList cs) := by
  rwa [OneLine, String.toList_ofList]

/-! ### Numbers -/

theorem newline_notMem_toDigits (n : Nat) : '\n' ∉ Nat.toDigits 10 n :=
  fun h => absurd (Nat.isDigit_of_mem_toDigits (by decide) (by decide) h) (by decide)

theorem oneLine_ofNat (n : Nat) : OneLine (Decimal.ofNat n) :=
  fun h => absurd (Decimal.isDigit_of_mem_ofNat h) (by decide)

theorem oneLine_ofInt (n : Int) : OneLine (Decimal.ofInt n) := by
  cases n with
  | ofNat m => exact oneLine_ofNat m
  | negSucc m => exact OneLine.append (s := "-") (by decide) (oneLine_ofNat _)

/-- Digits with a point among them are on one line. -/
theorem oneLine_pointed {digits : List Char} (h : '\n' ∉ digits) (whole : Nat) :
    OneLine (pointed digits whole) := by
  refine oneLine_ofList fun hmem => ?_
  rcases List.mem_append.1 hmem with hmem | hmem
  · exact h (List.mem_of_mem_take hmem)
  · rcases List.mem_cons.1 hmem with hpoint | hmem
    · exact absurd hpoint (by decide)
    · exact h (List.mem_of_mem_drop hmem)

/-- A number that is no integer is written on one line. -/
theorem oneLine_realDigits (d : Binary64.Digits) : OneLine (realDigits d) := by
  have hdigits := newline_notMem_toDigits d.digits
  dsimp only [realDigits]
  split
  · refine oneLine_ofList ?_
    simp [hdigits]
  · split
    · exact oneLine_pointed hdigits _
    · split
      · refine oneLine_ofList ?_
        simp [hdigits]
      · refine OneLine.append (OneLine.append ?_ (by decide)) (oneLine_ofInt _)
        split
        · exact oneLine_ofList hdigits
        · exact oneLine_pointed hdigits 1

/-! ### Texts -/

theorem newline_ne_hexDigit (n : Nat) : '\n' ≠ hexDigit n := by
  have hdigit : ∀ d < 16, '\n' ≠ Nat.digitChar d := by decide
  exact hdigit _ (Nat.mod_lt n (by decide))

/-- What is written for a character is no line break: the line break has an escape. -/
theorem newline_notMem_escapeChar (c : Char) : '\n' ∉ escapeChar c := by
  unfold escapeChar
  split_ifs with hquote hslash hback hfeed hline hreturn htab hcontrol
  iterate 7 · decide
  · simp [newline_ne_hexDigit]
  · exact fun hmem => hline (List.mem_singleton.1 hmem).symm

theorem oneLine_quote (s : String) : OneLine (quote s) := by
  refine oneLine_ofList fun hmem => ?_
  rcases List.mem_append.1 hmem with hmem | hmem
  · rcases List.mem_cons.1 hmem with hquote | hmem
    · exact absurd hquote (by decide)
    · obtain ⟨c, -, hc⟩ := List.mem_flatMap.1 hmem
      exact newline_notMem_escapeChar c hc
  · exact absurd (List.mem_singleton.1 hmem) (by decide)

/-! ### Values -/

mutual

/-- **A value is written on one line.** A line break within a text is escaped, and between the parts
of a value none is written. -/
theorem oneLine_render : (j : Json) → OneLine (render j)
  | .null => by decide
  | .bool true => by decide
  | .bool false => by decide
  | .int n => oneLine_ofInt n
  | .real x => by
    refine OneLine.append ?_ (oneLine_realDigits _)
    unfold Binary64.sign
    split <;> decide
  | .text s => oneLine_quote s
  | .array items =>
    ((by decide : OneLine "[").append (oneLine_renderItems items)).append (by decide)
  | .object members =>
    ((by decide : OneLine "\x7b").append (oneLine_renderMembers members)).append (by decide)

theorem oneLine_renderItems : (items : List Json) → OneLine (renderItems items)
  | [] => by decide
  | [item] => oneLine_render item
  | item :: other :: rest =>
    ((oneLine_render item).append (by decide)).append (oneLine_renderItems (other :: rest))

theorem oneLine_renderMembers : (members : List (String × Json)) → OneLine (renderMembers members)
  | [] => by decide
  | [(name, value)] => ((oneLine_quote name).append (by decide)).append (oneLine_render value)
  | (name, value) :: other :: rest =>
    ((((oneLine_quote name).append (by decide)).append (oneLine_render value)).append
      (by decide)).append (oneLine_renderMembers (other :: rest))

end

end DesignHistory.Json
