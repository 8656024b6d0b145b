import DesignHistory.Proofs.Text.Decimal

/-!
# Tokens of SQL texts

A text is read from tokens: words of letters and underscores, runs of digits, and
every other character on its own, with blanks between them or none.  A text that is
put together from parts has the tokens of the parts, as long as no word and no number
runs across the place where two of them meet.

## Main definitions

* `Sql.lex`, `Sql.tokens`: the tokens of characters and of a text.
* `Sql.startsApart`, `Sql.endsApart`: no token of the text can run across its start, or
  across its end.
* `Sql.isName`, `Sql.isNumeral`: the tokens that are names, and those that are numbers.

## Main statements

* `Sql.lex_append`: the tokens of two parts.
* `Sql.tokens_around`, `Sql.tokens_intercalate`: the tokens around fixed text.
* `Sql.tokens_name`, `Sql.tokens_numeral`: a name and a number are one token each.
-/

namespace DesignHistory.Sql

/-! ### Characters and tokens -/

/-- A character of names and keywords. -/
def isLetter (c : Char) : Bool := c.isAlpha || c == '_'

/-- Whether two characters next to each other belong to one token. -/
def joins (left right : Option Char) : Bool :=
  (left.any isLetter && right.any isLetter) || (left.any Char.isDigit && right.any Char.isDigit)

/-- The tokens of a list of characters.  Letters next to each other are one token, and so are
digits; everything else is a token of its own, and blanks only separate. -/
def lex : List Char → List String
  | [] => []
  | c :: cs =>
    if c = ' ' then lex cs
    else
      match lex cs with
      | [] => [String.singleton c]
      | t :: ts =>
        if joins (some c) cs.head? then (String.singleton c ++ t) :: ts
        else String.singleton c :: t :: ts

/-- The tokens of a text. -/
def tokens (s : String) : List String := lex s.toList

theorem lex_blank (cs : List Char) : lex (' ' :: cs) = lex cs := by
  rw [lex, if_pos rfl]

/-- A character that is not joined to the next one is a token. -/
theorem lex_cons_of_not_joins {c : Char} {cs : List Char} (hc : c ≠ ' ')
    (h : joins (some c) cs.head? = false) : lex (c :: cs) = String.singleton c :: lex cs := by
  rw [lex, if_neg hc, h]
  split
  · rename_i hcs
    rw [hcs]
  · rename_i t ts hcs
    rw [hcs]
    rfl

/-- A character that is joined to the next one belongs to its token. -/
theorem lex_cons_of_joins {c : Char} {cs : List Char} {t : String} {ts : List String}
    (hcs : lex cs = t :: ts) (hc : c ≠ ' ') (h : joins (some c) cs.head? = true) :
    lex (c :: cs) = (String.singleton c ++ t) :: ts := by
  rw [lex, if_neg hc, hcs, h]
  rfl

/-- Characters without a token start with a blank. -/
theorem eq_blank_of_lex_eq_nil {c : Char} {cs : List Char} (h : lex (c :: cs) = []) : c = ' ' := by
  by_cases hc : c = ' '
  · exact hc
  · rw [lex, if_neg hc] at h
    split at h
    · cases h
    · split at h <;> cases h

theorem joins_blank (c : Option Char) : joins c (some ' ') = false := by
  simp [joins, isLetter]

/-- Where two parts are not joined, their tokens follow each other.  With this the tokens of a text
are found part by part, as it is printed. -/
theorem lex_append {a b : List Char} (h : joins a.getLast? b.head? = false) :
    lex (a ++ b) = lex a ++ lex b := by
  induction a with
  | nil => rfl
  | cons c cs ih =>
    by_cases hc : c = ' '
    · subst hc
      cases cs with
      | nil => rw [List.cons_append, lex_blank]; rfl
      | cons c' cs' =>
        rw [List.getLast?_cons_cons] at h
        rw [List.cons_append, lex_blank, lex_blank, ih h]
    · cases cs with
      | nil =>
        have hlast : lex [c] = [String.singleton c] := by rw [lex, if_neg hc]; rfl
        rw [List.cons_append, List.nil_append, lex_cons_of_not_joins hc h, hlast]
        rfl
      | cons c' cs' =>
        rw [List.getLast?_cons_cons] at h
        have ih := ih h
        by_cases hjoins : joins (some c) (some c') = true
        · -- the token that `c` belongs to starts in the first part
          have hne : lex (c' :: cs') ≠ [] := by
            intro hnil
            rw [eq_blank_of_lex_eq_nil hnil, joins_blank] at hjoins
            cases hjoins
          obtain ⟨t, ts, hts⟩ := List.exists_cons_of_ne_nil hne
          rw [hts] at ih
          rw [List.cons_append, lex_cons_of_joins ih hc hjoins, lex_cons_of_joins hts hc hjoins]
          rfl
        · have hapart : joins (some c) (some c') = false := Bool.eq_false_iff.2 hjoins
          have hwhole : lex (c :: (c' :: cs' ++ b)) = String.singleton c :: lex (c' :: cs' ++ b) :=
            lex_cons_of_not_joins hc hapart
          have hfirst : lex (c :: c' :: cs') = String.singleton c :: lex (c' :: cs') :=
            lex_cons_of_not_joins hc hapart
          rw [List.cons_append, hwhole, hfirst, ih]
          rfl

/-- Characters that all belong together are one token. -/
theorem lex_of_joined {cs : List Char} (hne : cs ≠ [])
    (h : ∀ c ∈ cs, ∀ c' ∈ cs, joins (some c) (some c') = true) : lex cs = [String.ofList cs] := by
  induction cs with
  | nil => exact absurd rfl hne
  | cons c cs ih =>
    have hc : c ≠ ' ' := by
      rintro rfl
      have hself := h ' ' List.mem_cons_self ' ' List.mem_cons_self
      rw [joins_blank] at hself
      cases hself
    cases cs with
    | nil => rw [lex, if_neg hc]; rfl
    | cons c' cs' =>
      have ih := ih (List.cons_ne_nil _ _) fun d hd d' hd' =>
        h d (List.mem_cons_of_mem _ hd) d' (List.mem_cons_of_mem _ hd')
      have hjoins := h c List.mem_cons_self c' (List.mem_cons_of_mem _ List.mem_cons_self)
      rw [lex_cons_of_joins ih hc hjoins, String.singleton_eq_ofList, ← String.ofList_append]
      rfl

/-! ### Texts in parts -/

/-- No token of the text runs across its start.  All fixed parts of a statement between its phrases
are of this kind. -/
def startsApart (s : String) : Bool := s.toList.head?.all fun c => !isLetter c && !c.isDigit

/-- No token of the text runs across its end. -/
def endsApart (s : String) : Bool := s.toList.getLast?.all fun c => !isLetter c && !c.isDigit

/-- A character of no token is joined to none on either side. -/
theorem joins_eq_false_of_apart {o : Option Char}
    (h : (o.all fun c => !isLetter c && !c.isDigit) = true) (c : Option Char) :
    joins c o = false ∧ joins o c = false := by
  cases o with
  | none => simp [joins]
  | some c' =>
    simp only [Option.all_some, Bool.and_eq_true, Bool.not_eq_true'] at h
    simp [joins, h]

theorem tokens_append_left (s : String) {t : String} (h : startsApart t = true) :
    tokens (s ++ t) = tokens s ++ tokens t := by
  unfold tokens
  rw [String.toList_append, lex_append (joins_eq_false_of_apart h _).1]

theorem tokens_append_right {s : String} (t : String) (h : endsApart s = true) :
    tokens (s ++ t) = tokens s ++ tokens t := by
  unfold tokens
  rw [String.toList_append, lex_append (joins_eq_false_of_apart h _).2]

/-- Where a text ends apart, a longer one does that ends with it. -/
theorem endsApart_append (s : String) {t : String} (hne : t ≠ "") (h : endsApart t = true) :
    endsApart (s ++ t) = true := by
  have hlast : (s ++ t).toList.getLast? = t.toList.getLast? := by
    have hlist : t.toList ≠ [] := fun hnil => hne (String.toList_eq_nil_iff.1 hnil)
    rw [String.toList_append, List.getLast?_append, List.getLast?_eq_some_getLast hlist]
    rfl
  rw [endsApart, hlast]
  exact h

/-- The tokens around a text that starts and ends apart. -/
theorem tokens_around (s : String) {fixed : String} (t : String) (hne : fixed ≠ "")
    (hstart : startsApart fixed = true) (hend : endsApart fixed = true) :
    tokens (s ++ fixed ++ t) = tokens s ++ tokens fixed ++ tokens t := by
  rw [tokens_append_right t (endsApart_append s hne hend), tokens_append_left s hstart]

/-- The tokens of texts with a text between them that starts and ends apart. -/
theorem tokens_intercalate {fixed : String} (hne : fixed ≠ "") (hstart : startsApart fixed = true)
    (hend : endsApart fixed = true) (l : List String) :
    tokens (fixed.intercalate l) = (tokens fixed).intercalate (l.map tokens) := by
  induction l with
  | nil => rw [String.intercalate_nil]; rfl
  | cons s rest ih =>
    cases rest with
    | nil => rw [String.intercalate_singleton, List.map_singleton, List.intercalate_singleton]
    | cons t rest =>
      rw [String.intercalate_cons_cons, tokens_around s _ hne hstart hend, ih]
      simp only [List.map_cons, List.intercalate_cons_cons, List.append_assoc]

/-- Texts that start apart do so one after the other. -/
theorem startsApart_append {s t : String} (hs : startsApart s = true) (ht : startsApart t = true) :
    startsApart (s ++ t) = true := by
  unfold startsApart at *
  rw [String.toList_append, List.head?_append]
  cases h : s.toList.head? with
  | none => exact ht
  | some c =>
    rw [h] at hs
    exact hs

/-- Where a text starts apart, a longer one does that starts with it. -/
theorem startsApart_append_of_ne {s : String} (t : String) (hne : s ≠ "")
    (h : startsApart s = true) : startsApart (s ++ t) = true := by
  have hlist : s.toList ≠ [] := fun hnil => hne (String.toList_eq_nil_iff.1 hnil)
  obtain ⟨c, cs, hcs⟩ := List.exists_cons_of_ne_nil hlist
  unfold startsApart at *
  rw [hcs] at h
  rw [String.toList_append, hcs]
  exact h

/-- The tokens of texts that start apart, one after the other. -/
theorem tokens_join {l : List String} (h : ∀ s ∈ l, startsApart s = true) :
    startsApart (String.join l) = true ∧ tokens (String.join l) = l.flatMap tokens := by
  induction l with
  | nil => exact ⟨rfl, rfl⟩
  | cons s rest ih =>
    obtain ⟨hstart, ih⟩ := ih fun t ht => h t (List.mem_cons_of_mem _ ht)
    rw [String.join_cons, List.flatMap_cons, tokens_append_left s hstart, ih]
    exact ⟨startsApart_append (h s List.mem_cons_self) hstart, rfl⟩

/-! ### Names and numbers -/

/-- A name, which is written in small letters as keywords are not.  Nothing else is assumed about
the names of tables and columns. -/
def isName (t : String) : Bool :=
  !t.toList.isEmpty && t.toList.all fun c => c.isLower || c == '_'

/-- A number without a sign. -/
def isNumeral (t : String) : Bool := !t.toList.isEmpty && t.toList.all Char.isDigit

/-- A name is one token. -/
theorem tokens_name {t : String} (h : isName t = true) : tokens t = [t] := by
  simp only [isName, Bool.and_eq_true, List.all_eq_true, Bool.not_eq_true',
    List.isEmpty_eq_false_iff] at h
  have hletter : ∀ c ∈ t.toList, isLetter c = true := by
    intro c hc
    have hchar := h.2 c hc
    rw [Bool.or_eq_true] at hchar
    show (c.isUpper || c.isLower || c == '_') = true
    rw [Bool.or_eq_true, Bool.or_eq_true]
    rcases hchar with hlower | hunderscore
    · exact .inl (.inr hlower)
    · exact .inr hunderscore
  have hjoined : lex t.toList = [String.ofList t.toList] := by
    refine lex_of_joined h.1 fun c hc c' hc' => ?_
    simp [joins, hletter c hc, hletter c' hc']
  rw [tokens, hjoined, String.ofList_toList]

/-- A number is one token. -/
theorem tokens_numeral {t : String} (h : isNumeral t = true) : tokens t = [t] := by
  simp only [isNumeral, Bool.and_eq_true, List.all_eq_true, Bool.not_eq_true',
    List.isEmpty_eq_false_iff] at h
  have hjoined : lex t.toList = [String.ofList t.toList] := by
    refine lex_of_joined h.1 fun c hc c' hc' => ?_
    simp [joins, h.2 c hc, h.2 c' hc']
  rw [tokens, hjoined, String.ofList_toList]

/-- A name is no number.  Readers that look for one or the other cannot both succeed. -/
theorem isNumeral_of_isName {t : String} (h : isName t = true) : isNumeral t = false := by
  simp only [isName, Bool.and_eq_true, List.all_eq_true, Bool.not_eq_true',
    List.isEmpty_eq_false_iff] at h
  obtain ⟨c, cs, hcs⟩ := List.exists_cons_of_ne_nil h.1
  have hc := h.2 c (by rw [hcs]; exact List.mem_cons_self)
  have hdigit : c.isDigit = false := by
    rcases Bool.or_eq_true _ _ ▸ hc with hlower | hunderscore
    · have hcode : (decide ('a'.val ≤ c.val) && decide (c.val ≤ 'z'.val)) = true := hlower
      simp only [Bool.and_eq_true, decide_eq_true_eq, UInt32.le_iff_toNat_le] at hcode
      have hbound : ¬c.val.toNat ≤ 57 := by
        have : 97 ≤ c.val.toNat := hcode.1
        omega
      simp only [Char.isDigit, Bool.and_eq_false_iff, decide_eq_false_iff_not,
        UInt32.le_iff_toNat_le]
      exact .inr hbound
    · rw [beq_iff_eq] at hunderscore
      rw [hunderscore]
      rfl
  rw [isNumeral, hcs, List.all_cons, hdigit]
  rfl

theorem isNumeral_ofNat (n : Nat) : isNumeral (Decimal.ofNat n) = true := by
  obtain ⟨hne, hdigits, -⟩ := Decimal.canonical_ofNat n
  rw [isNumeral, Bool.and_eq_true, List.all_eq_true]
  exact ⟨by simpa using hne, hdigits⟩

end DesignHistory.Sql
