import Mathlib.Data.List.Nodup
import DesignHistory.Json.Parser
import DesignHistory.Json.Printer
import DesignHistory.Proofs.Text.Decimal

/-!
# JSON text, written and read

The written form of a value is read as the value, whatever text follows it, as long as that text
does not go on with a number.  What is read is a value whose integers have 64 bits, whose objects
have members of different names, and which is nested no deeper than the reader goes.

## Main definitions

* `Json.Readable`: such values, with a bound on how deep they are nested.
* `Json.Closes`: the texts that may follow a value.

## Main statements

* `Json.readString?_flatMap_escapeChar`: a text is read between its quotes.
* `Json.readNumber?_ofInt`: an integer is read.
* `Json.Readable.ofText?_render`: a value is read from its written form.
-/

namespace DesignHistory.Json

/-- Values with integers of 64 bits and no other numbers, with members of different names, and with
arrays and objects nested in each other at most so deep.  Everything that the library writes for a
record is of this kind. -/
inductive Readable : Nat → Json → Prop where
  | null {depth : Nat} : Readable depth .null
  | bool {depth : Nat} (b : Bool) : Readable depth (.bool b)
  | int {depth : Nat} (n : Int) (h : isExact n = true) : Readable depth (.int n)
  | text {depth : Nat} (s : String) : Readable depth (.text s)
  | array {depth : Nat} {items : List Json} (h : ∀ item ∈ items, Readable depth item) :
    Readable (depth + 1) (.array items)
  | object {depth : Nat} {members : List (String × Json)} (hnames : (members.map Prod.fst).Nodup)
    (h : ∀ m ∈ members, Readable depth m.2) : Readable (depth + 1) (.object members)

/-- A text that does not go on with a number in front of it.  Only a number does not show by its own
last character that it is complete. -/
def Closes (rest : List Char) : Prop :=
  ∀ c ∈ rest.head?, c.isDigit = false ∧ c ≠ '.' ∧ c ≠ 'e' ∧ c ≠ 'E'

theorem skipBlanks_cons {c : Char} (h : isBlank c = false) (cs : List Char) :
    skipBlanks (c :: cs) = c :: cs :=
  List.dropWhile_cons_of_neg (by rw [h]; exact Bool.false_ne_true)

/-! ### Texts -/

theorem hexUnit?_control : ∀ n < 32,
    hexUnit? '0' '0' (hexDigit (n / 16)) (hexDigit n) = some n := by
  decide

/-- What is written for a character is read as the character.  There is a case for each character
that has an escape of its own, one for other controls, and one for all the rest. -/
theorem readString?_escapeChar (read : List Char) (c : Char) (cs : List Char) :
    readString? read (escapeChar c ++ cs) = readString? (c :: read) cs := by
  by_cases hquote : c = '"'
  · subst hquote; rfl
  by_cases hbackslash : c = '\\'
  · subst hbackslash; rfl
  by_cases hbackspace : c = '\x08'
  · subst hbackspace; rfl
  by_cases hfeed : c = '\x0c'
  · subst hfeed; rfl
  by_cases hnewline : c = '\n'
  · subst hnewline; rfl
  by_cases hreturn : c = '\r'
  · subst hreturn; rfl
  by_cases htab : c = '\t'
  · subst htab; rfl
  unfold escapeChar
  simp only [if_neg hquote, if_neg hbackslash, if_neg hbackspace, if_neg hfeed, if_neg hnewline,
    if_neg hreturn, if_neg htab]
  by_cases hcontrol : c.toNat < 32
  · have hunit := hexUnit?_control c.toNat hcontrol
    have hplain : c.toNat < 0xd800 ∨ 0xe000 ≤ c.toNat := .inl (Nat.lt_trans hcontrol (by decide))
    rw [if_pos hcontrol]
    show readString? read ('\\' :: 'u' :: '0' :: '0' :: hexDigit (c.toNat / 16) :: hexDigit c.toNat
      :: cs) = _
    simp only [readString?, hunit, if_pos hplain, Char.ofNat_toNat]
  · rw [if_neg hcontrol, List.singleton_append]
    simp [readString?, hbackslash, hcontrol]

/-- A text is read up to the closing quote. -/
theorem readString?_flatMap_escapeChar (read cs rest : List Char) :
    readString? read (cs.flatMap escapeChar ++ '"' :: rest)
      = some (String.ofList (read.reverse ++ cs), rest) := by
  induction cs generalizing read with
  | nil => rw [List.append_nil]; rfl
  | cons c cs ih =>
    rw [List.flatMap_cons, List.append_assoc, readString?_escapeChar, ih, List.reverse_cons,
      List.append_assoc, List.singleton_append]

theorem toList_quote_append (s : String) (rest : List Char) :
    (quote s).toList ++ rest = '"' :: (s.toList.flatMap escapeChar ++ '"' :: rest) := by
  have hquote : (quote s).toList = '"' :: (s.toList.flatMap escapeChar ++ ['"']) :=
    String.toList_ofList
  rw [hquote, List.cons_append, List.append_assoc, List.singleton_append]

theorem readString?_quote (s : String) (rest : List Char) :
    readString? [] (s.toList.flatMap escapeChar ++ '"' :: rest) = some (s, rest) := by
  rw [readString?_flatMap_escapeChar, List.reverse_nil, List.nil_append, String.ofList_toList]

/-! ### Integers -/

section Integers

variable {digits rest : List Char} (hrest : Closes rest)

include hrest

/-- The digits of a whole number are read. -/
theorem readWhole?_canonical (hdigits : Decimal.Canonical digits) :
    readWhole? (digits ++ rest) = some (digits, rest) := by
  obtain ⟨hne, hdigit, hzero⟩ := hdigits
  have hend : ∀ c ∈ rest.head?, c.isDigit = false := fun c hc => (hrest c hc).1
  have hread : readDigits? (digits ++ rest) = some (digits, rest) := by
    unfold readDigits?
    rw [Decimal.takeWhile_digits hdigit hend, Decimal.dropWhile_digits hdigit hend]
    split
    · exact absurd rfl hne
    · rfl
  unfold readWhole?
  split
  · rename_i c cs happend
    -- a zero in front is the whole number
    have hhead : digits.head? = some '0' := by
      rw [← List.head?_append_of_ne_nil _ hne, happend, List.head?_cons]
    rw [hzero hhead, List.singleton_append, List.cons.injEq] at happend
    obtain ⟨-, rfl⟩ := happend
    rw [(hrest c rfl).1, hzero hhead]
    rfl
  · exact hread

theorem readFraction?_closes : readFraction? rest = some (none, rest) := by
  unfold readFraction?
  split
  · exact absurd rfl (hrest '.' rfl).2.1
  · rfl

theorem readExponent?_closes : readExponent? rest = some (none, rest) := by
  cases rest with
  | nil => rfl
  | cons c cs =>
    obtain ⟨-, -, he, hE⟩ := hrest c rfl
    have hnone : ¬(c == 'e' || c == 'E') = true := by simp [he, hE]
    simp only [readExponent?, if_neg hnone]

/-- Digits with a sign are read as an integer, if they denote one of 64 bits and not minus zero.
The text behind must not go on with the number, or else more would be read. -/
theorem readNumber?_digits (hdigits : Decimal.Canonical digits) (negative : Bool) {n : Int}
    (hn : n = if negative then -(Decimal.value digits : Int) else Decimal.value digits)
    (hexact : isExact n = true) (hzero : (negative && Decimal.value digits == 0) = false) :
    readNumber? ((if negative then ['-'] else []) ++ (digits ++ rest)) = some (.int n, rest) := by
  have hread := readWhole?_canonical hrest hdigits
  have hplus : ∀ cs, digits ++ rest ≠ '-' :: cs := by
    intro cs happend
    have hhead : '-' ∈ digits := by
      refine List.mem_of_mem_head? ?_
      rw [← List.head?_append_of_ne_nil _ hdigits.1, happend]
      rfl
    exact absurd (hdigits.2.1 '-' hhead) (by decide)
  cases negative with
  | false =>
    simp only [readNumber?, Bool.false_eq_true, if_false, List.nil_append, hread,
      readFraction?_closes hrest, readExponent?_closes hrest, Option.bind_eq_bind, Option.bind_some,
      Option.isNone_none, Bool.false_and, Bool.true_and, Bool.not_false] at hn ⊢
    rw [← hn, hexact]
    rfl
  | true =>
    simp only [readNumber?, if_true, List.singleton_append, hread, readFraction?_closes hrest,
      readExponent?_closes hrest, Option.bind_eq_bind, Option.bind_some, Option.isNone_none,
      Bool.true_and] at hn hzero ⊢
    rw [← hn, hexact, hzero]
    rfl

/-- An integer of 64 bits is read. -/
theorem readNumber?_ofInt {n : Int} (h : isExact n = true) :
    readNumber? ((Decimal.ofInt n).toList ++ rest) = some (.int n, rest) := by
  cases n with
  | ofNat m =>
    have hm : Int.ofNat m = (Decimal.value (Decimal.ofNat m).toList : Int) := by
      rw [Decimal.value_ofNat]
      rfl
    exact readNumber?_digits hrest (Decimal.canonical_ofNat m) false hm h rfl
  | negSucc m =>
    have hm : Int.negSucc m = -(Decimal.value (Decimal.ofNat (m + 1)).toList : Int) := by
      rw [Decimal.value_ofNat]
      rfl
    have hzero : (true && Decimal.value (Decimal.ofNat (m + 1)).toList == 0) = false := by
      rw [Decimal.value_ofNat]
      rfl
    rw [Decimal.ofInt, String.toList_append, List.append_assoc]
    exact readNumber?_digits hrest (Decimal.canonical_ofNat (m + 1)) true hm h hzero

end Integers

/-! ### One step of reading -/

/-- A value is read back from its written form, in front of any text that does not go on with a
number and in at most twice as many steps as there are characters.  The text behind is what makes
the induction over lists of items go through. -/
def ReadsBackAt (depth : Nat) (j : Json) : Prop :=
  ∀ fuel rest, Closes rest → 2 * (render j).toList.length ≤ fuel →
    readValue? fuel depth ((render j).toList ++ rest) = some (j, rest)

theorem closes_nil : Closes [] := fun _ h => nomatch h

theorem closes_cons {c : Char} (h : c.isDigit = false ∧ c ≠ '.' ∧ c ≠ 'e' ∧ c ≠ 'E')
    (cs : List Char) : Closes (c :: cs) := by
  rintro _ ⟨⟩
  exact h

/-- An integer is written with a digit or a minus sign in front. -/
theorem exists_ofInt_cons (n : Int) :
    ∃ c cs, (Decimal.ofInt n).toList = c :: cs ∧ (c.isDigit = true ∨ c = '-') := by
  cases n with
  | ofNat m =>
    obtain ⟨hne, hdigits, -⟩ := Decimal.canonical_ofNat m
    obtain ⟨c, cs, hcons⟩ := List.exists_cons_of_ne_nil hne
    exact ⟨c, cs, hcons, .inl (hdigits c (hcons ▸ List.mem_cons_self))⟩
  | negSucc m => exact ⟨'-', _, by rw [Decimal.ofInt, String.toList_append]; rfl, .inr rfl⟩

theorem isBlank_of_number {c : Char} (h : c.isDigit = true ∨ c = '-') : isBlank c = false := by
  simp only [isBlank, Bool.or_eq_false_iff, beq_eq_false_iff_ne]
  refine ⟨⟨⟨?_, ?_⟩, ?_⟩, ?_⟩ <;> rintro rfl <;> exact absurd h (by decide)

/-- A text with a digit or a minus sign in front is read as a number. -/
theorem readValue?_number {c : Char} (h : c.isDigit = true ∨ c = '-') (fuel depth : Nat)
    (cs : List Char) : readValue? (fuel + 1) depth (c :: cs) = readNumber? (c :: cs) := by
  have hother : ∀ {c' : Char} {cs' : List Char}, ¬(c'.isDigit = true ∨ c' = '-') →
      c :: cs ≠ c' :: cs' := by
    intro c' cs' hc' heq
    obtain ⟨rfl, -⟩ := List.cons.inj heq
    exact hc' h
  unfold readValue?
  rw [skipBlanks_cons (isBlank_of_number h)]
  split
  case h_9 => rfl
  all_goals exact absurd ‹c :: cs = _› (hother (by decide))

/-- A value is written with a first character that is neither a blank nor the end of an array.  By
this character a reader knows that an item follows. -/
theorem exists_render_cons {depth : Nat} {j : Json} (h : Readable depth j) :
    ∃ c cs, (render j).toList = c :: cs ∧ isBlank c = false ∧ c ≠ ']' := by
  cases h with
  | null => exact ⟨'n', _, rfl, rfl, by decide⟩
  | bool b =>
    cases b with
    | true => exact ⟨'t', _, rfl, rfl, by decide⟩
    | false => exact ⟨'f', _, rfl, rfl, by decide⟩
  | int n _ =>
    obtain ⟨c, cs, hcons, hc⟩ := exists_ofInt_cons n
    refine ⟨c, cs, by rw [render, hcons], isBlank_of_number hc, ?_⟩
    rintro rfl
    exact absurd hc (by decide)
  | text s =>
    exact ⟨'"', _, by rw [render, ← List.append_nil (quote s).toList, toList_quote_append], rfl,
      by decide⟩
  | array _ =>
    exact ⟨'[', _, by rw [render, String.toList_append, String.toList_append]; rfl, rfl, by decide⟩
  | object _ _ =>
    exact ⟨'\x7b', _, by rw [render, String.toList_append, String.toList_append]; rfl, rfl,
      by decide⟩

section Steps

variable {fuel depth : Nat}

theorem readValue?_quote (s : String) (rest : List Char) :
    readValue? (fuel + 1) depth ((quote s).toList ++ rest) = some (.text s, rest) := by
  simp only [toList_quote_append, readValue?, skipBlanks_cons (c := '"') rfl, readString?_quote,
    Option.map_some]

theorem readValue?_array {items : List Json} {c : Char} {cs rest : List Char}
    (hblank : isBlank c = false) (hend : c ≠ ']')
    (h : readItems? fuel depth (c :: cs) = some (items, rest)) :
    readValue? (fuel + 1) (depth + 1) ('[' :: c :: cs) = some (.array items, rest) := by
  -- the reader looks for an end first, and this is none
  have hitems : ∀ rest, c :: cs ≠ ']' :: rest := fun _ heq => hend (List.cons.inj heq).1
  simp only [readValue?, skipBlanks_cons (c := '[') rfl, skipBlanks_cons hblank, h, Option.map_some]

theorem readValue?_object {members : List (String × Json)} {cs rest : List Char}
    (h : readMembers? fuel depth ('"' :: cs) = some (members, rest)) :
    readValue? (fuel + 1) (depth + 1) ('\x7b' :: '"' :: cs) = some (.object members, rest) := by
  have hmembers : ∀ rest, '"' :: cs ≠ '\x7d' :: rest :=
    fun _ heq => absurd (List.cons.inj heq).1 (by decide)
  simp only [readValue?, skipBlanks_cons (c := '\x7b') rfl, skipBlanks_cons (c := '"') rfl, h,
    Option.map_some]

theorem readItems?_last {item : Json} {cs rest : List Char}
    (h : readValue? fuel depth cs = some (item, ']' :: rest)) :
    readItems? (fuel + 1) depth cs = some ([item], rest) := by
  rw [readItems?, h]
  rfl

/-- An item of an array is read, and the items after it. -/
theorem readItems?_cons {item : Json} {items : List Json} {cs more rest : List Char}
    (h : readValue? fuel depth cs = some (item, ',' :: more))
    (hmore : readItems? fuel depth more = some (items, rest)) :
    readItems? (fuel + 1) depth cs = some (item :: items, rest) := by
  rw [readItems?, h]
  show (readItems? fuel depth more).map _ = _
  rw [hmore]
  rfl

variable {name : String} {value : Json} {cs more rest : List Char}

theorem readMembers?_last (h : readValue? fuel depth cs = some (value, '\x7d' :: rest)) :
    readMembers? (fuel + 1) depth ((quote name).toList ++ ':' :: cs)
      = some ([(name, value)], rest) := by
  simp only [toList_quote_append, readMembers?, skipBlanks_cons (c := '"') rfl, readString?_quote,
    skipBlanks_cons (c := ':') rfl, h, skipBlanks_cons (c := '\x7d') rfl]

/-- A member of an object is read, and the members after it if none of them has the name. -/
theorem readMembers?_cons {members : List (String × Json)}
    (h : readValue? fuel depth cs = some (value, ',' :: more))
    (hmore : readMembers? fuel depth more = some (members, rest))
    (hname : name ∉ members.map Prod.fst) :
    readMembers? (fuel + 1) depth ((quote name).toList ++ ':' :: cs)
      = some ((name, value) :: members, rest) := by
  have hany : ¬members.any (·.1 == name) = true := by
    rw [List.any_eq_true]
    rintro ⟨m, hm, heq⟩
    exact hname (List.mem_map.2 ⟨m, hm, beq_iff_eq.1 heq⟩)
  simp only [toList_quote_append, readMembers?, skipBlanks_cons (c := '"') rfl, readString?_quote,
    skipBlanks_cons (c := ':') rfl, h, skipBlanks_cons (c := ',') rfl, hmore, Option.map_some,
    if_neg hany]

end Steps

/-! ### Lists of values -/

theorem toList_renderItems_cons (item next : Json) (items : List Json) :
    (renderItems (item :: next :: items)).toList
      = (render item).toList ++ ',' :: (renderItems (next :: items)).toList := by
  have hrender : renderItems (item :: next :: items)
      = render item ++ "," ++ renderItems (next :: items) := rfl
  rw [hrender, String.toList_append, String.toList_append, List.append_assoc]
  rfl

/-- Members with a comma between them. -/
theorem toList_renderMembers_cons (name : String) (value : Json) (next : String × Json)
    (members : List (String × Json)) :
    (renderMembers ((name, value) :: next :: members)).toList
      = (quote name).toList ++ ':' :: ((render value).toList
        ++ ',' :: (renderMembers (next :: members)).toList) := by
  have hrender : renderMembers ((name, value) :: next :: members)
      = quote name ++ ":" ++ render value ++ "," ++ renderMembers (next :: members) := rfl
  simp only [hrender, String.toList_append, List.append_assoc]
  rfl

theorem toList_renderMembers_singleton (name : String) (value : Json) :
    (renderMembers [(name, value)]).toList
      = (quote name).toList ++ ':' :: (render value).toList := by
  rw [renderMembers, String.toList_append, String.toList_append, List.append_assoc]
  rfl

/-- A list of items is written with the first character of its first item in front. -/
theorem exists_renderItems_cons {depth : Nat} {items : List Json} (hne : items ≠ [])
    (h : ∀ item ∈ items, Readable depth item) :
    ∃ c cs, (renderItems items).toList = c :: cs ∧ isBlank c = false ∧ c ≠ ']' := by
  cases items with
  | nil => exact absurd rfl hne
  | cons item items =>
    obtain ⟨c, cs, hcons, hc⟩ := exists_render_cons (h item List.mem_cons_self)
    cases items with
    | nil => exact ⟨c, cs, hcons, hc⟩
    | cons next items => exact ⟨c, _, by rw [toList_renderItems_cons, hcons, List.cons_append], hc⟩

/-- A list of members is written with a quote in front. -/
theorem exists_renderMembers_cons {members : List (String × Json)} (hne : members ≠ []) :
    ∃ cs, (renderMembers members).toList = '"' :: cs := by
  cases members with
  | nil => exact absurd rfl hne
  | cons m members =>
    obtain ⟨name, value⟩ := m
    cases members with
    | nil => exact ⟨_, by rw [toList_renderMembers_singleton, toList_quote_append]⟩
    | cons next members => exact ⟨_, by rw [toList_renderMembers_cons, toList_quote_append]⟩

/-- A list of items is read if every item is.  The fuel suffices because each item and each comma
takes a character. -/
theorem readItems?_renderItems {depth : Nat} {items : List Json} (hne : items ≠ [])
    (h : ∀ item ∈ items, ReadsBackAt depth item) :
    ∀ fuel rest, 2 * (renderItems items).toList.length + 1 ≤ fuel →
      readItems? fuel depth ((renderItems items).toList ++ ']' :: rest) = some (items, rest) := by
  induction items with
  | nil => exact absurd rfl hne
  | cons item items ih =>
    intro fuel rest hfuel
    obtain ⟨fuel, rfl⟩ : ∃ n, fuel = n + 1 := ⟨fuel - 1, by omega⟩
    have hitem := h item List.mem_cons_self
    cases items with
    | nil =>
      rw [renderItems] at hfuel ⊢
      exact readItems?_last (hitem fuel _ (closes_cons (by decide) _) (by omega))
    | cons next items =>
      rw [toList_renderItems_cons] at hfuel ⊢
      rw [List.length_append, List.length_cons] at hfuel
      rw [List.append_assoc, List.cons_append]
      exact readItems?_cons (hitem fuel _ (closes_cons (by decide) _) (by omega))
        (ih (List.cons_ne_nil _ _) (fun j hj => h j (List.mem_cons_of_mem _ hj)) fuel rest
          (by omega))

/-- A list of members of different names is read if every value is.  Were a name there twice, only
one of its values would be kept. -/
theorem readMembers?_renderMembers {depth : Nat} {members : List (String × Json)}
    (hne : members ≠ []) (hnames : (members.map Prod.fst).Nodup)
    (h : ∀ m ∈ members, ReadsBackAt depth m.2) :
    ∀ fuel rest, 2 * (renderMembers members).toList.length + 1 ≤ fuel →
      readMembers? fuel depth ((renderMembers members).toList ++ '\x7d' :: rest)
        = some (members, rest) := by
  induction members with
  | nil => exact absurd rfl hne
  | cons m members ih =>
    obtain ⟨name, value⟩ := m
    intro fuel rest hfuel
    obtain ⟨fuel, rfl⟩ : ∃ n, fuel = n + 1 := ⟨fuel - 1, by omega⟩
    have hvalue : ReadsBackAt depth value := h (name, value) List.mem_cons_self
    obtain ⟨hname, hnames⟩ := List.nodup_cons.1 hnames
    cases members with
    | nil =>
      rw [toList_renderMembers_singleton] at hfuel ⊢
      rw [List.length_append, List.length_cons] at hfuel
      rw [List.append_assoc, List.cons_append]
      exact readMembers?_last (hvalue fuel _ (closes_cons (by decide) _) (by omega))
    | cons next members =>
      rw [toList_renderMembers_cons] at hfuel ⊢
      rw [List.length_append, List.length_cons, List.length_append, List.length_cons] at hfuel
      rw [List.append_assoc, List.cons_append, List.append_assoc, List.cons_append]
      exact readMembers?_cons (hvalue fuel _ (closes_cons (by decide) _) (by omega))
        (ih (List.cons_ne_nil _ _) hnames (fun m hm => h m (List.mem_cons_of_mem _ hm)) fuel rest
          (by omega)) hname

/-! ### Values -/

/-- A value has a first character, so that a step of reading is left for it. -/
theorem readsBackAt_of_step {depth : Nat} {j : Json} (h : Readable depth j)
    (hstep : ∀ fuel rest, Closes rest → 2 * (render j).toList.length ≤ fuel + 1 →
      readValue? (fuel + 1) depth ((render j).toList ++ rest) = some (j, rest)) :
    ReadsBackAt depth j := by
  intro fuel rest hrest hfuel
  obtain ⟨c, cs, hcons, -⟩ := exists_render_cons h
  have hlength : (render j).toList.length = cs.length + 1 := by rw [hcons, List.length_cons]
  obtain ⟨fuel, rfl⟩ : ∃ n, fuel = n + 1 := ⟨fuel - 1, by omega⟩
  exact hstep fuel rest hrest hfuel

theorem toList_render_array (items : List Json) :
    (render (.array items)).toList = '[' :: ((renderItems items).toList ++ [']']) := by
  rw [render, String.toList_append, String.toList_append]
  rfl

theorem toList_render_object (members : List (String × Json)) :
    (render (.object members)).toList
      = '\x7b' :: ((renderMembers members).toList ++ ['\x7d']) := by
  rw [render, String.toList_append, String.toList_append]
  rfl

/-- A value is read back from its written form.  The induction is on how the value is built, with
the texts behind it left open. -/
theorem Readable.readsBackAt {depth : Nat} {j : Json} (h : Readable depth j) :
    ReadsBackAt depth j := by
  induction h with
  | null => exact readsBackAt_of_step .null fun fuel rest _ _ => rfl
  | bool b =>
    refine readsBackAt_of_step (.bool b) fun fuel rest _ _ => ?_
    cases b with
    | true => rfl
    | false => rfl
  | int n hn =>
    refine readsBackAt_of_step (.int n hn) fun fuel rest hrest _ => ?_
    obtain ⟨c, cs, hcons, hc⟩ := exists_ofInt_cons n
    have hread := readNumber?_ofInt hrest hn
    rw [hcons, List.cons_append] at hread
    rw [render, hcons, List.cons_append, readValue?_number hc, hread]
  | text s =>
    refine readsBackAt_of_step (.text s) fun fuel rest _ _ => ?_
    rw [render, readValue?_quote]
  | @array depth items h ih =>
    refine readsBackAt_of_step (.array h) fun fuel rest _ hfuel => ?_
    rw [toList_render_array] at hfuel ⊢
    rw [List.length_cons, List.length_append, List.length_singleton] at hfuel
    rw [List.cons_append, List.append_assoc, List.singleton_append]
    by_cases hne : items = []
    · rw [hne]
      rfl
    · have hread := readItems?_renderItems hne ih fuel rest (by omega)
      obtain ⟨c, cs, hcons, hblank, hend⟩ := exists_renderItems_cons hne h
      rw [hcons, List.cons_append] at hread ⊢
      exact readValue?_array hblank hend hread
  | @object depth members hnames h ih =>
    refine readsBackAt_of_step (.object hnames h) fun fuel rest _ hfuel => ?_
    rw [toList_render_object] at hfuel ⊢
    rw [List.length_cons, List.length_append, List.length_singleton] at hfuel
    rw [List.cons_append, List.append_assoc, List.singleton_append]
    by_cases hne : members = []
    · rw [hne]
      rfl
    · have hread := readMembers?_renderMembers hne hnames ih fuel rest (by omega)
      obtain ⟨cs, hcons⟩ := exists_renderMembers_cons hne
      rw [hcons, List.cons_append] at hread ⊢
      exact readValue?_object hread

/-- **A value that is nested no deeper than the reader goes is read from its written form.** Nothing
may stand behind it but blanks, and nothing does. -/
theorem Readable.ofText?_render {j : Json} (h : Readable maxDepth j) :
    ofText? (render j) = some j := by
  have hread := h.readsBackAt (2 * (render j).toList.length + 2) [] closes_nil (by omega)
  rw [List.append_nil] at hread
  simp only [ofText?]
  rw [hread]
  rfl

end DesignHistory.Json
