import DesignHistory.Proofs.Sql.Reader
import DesignHistory.Sql.Printer

/-!
# Reading printed phrases

A printed phrase is read off the front of its own tokens, and what follows them is left,
provided that it cannot be taken for a part of the phrase: after a column there must be
no point, after a list no separator.

## Main definitions

* `Sql.Reads`: a reader takes a phrase off the front of its tokens.
* `Sql.Column.isNamed`, `Sql.Comparison.isNamed`, `Sql.Source.isNamed`: what should be
  names is names.

## Main statements

* `Sql.reads_list`, `Sql.reads_many`, `Sql.reads_clause`: lists of phrases.
* `Sql.reads_integer`: signed numbers.
* `Sql.reads_comparisons`, `Sql.reads_source`: comparisons and sources.
-/

namespace DesignHistory.Sql

variable {α : Type}

/-- A reader takes a phrase off the front of its tokens if what follows them lets it.  The condition
on what follows is needed where a phrase could go on, as a column with a point behind it could. -/
def Reads (read : Reader α) (ts : List String) (a : α) (follows : Option String → Prop) : Prop :=
  ∀ rest, follows rest.head? → read (ts ++ rest) = some (a, rest)

/-! ### Lists of phrases -/

@[simp]
theorem skip_append (es rest : List String) : skip es (es ++ rest) = some rest := by
  induction es with
  | nil => rfl
  | cons e es ih => rw [List.cons_append, skip, if_pos rfl, ih]

/-- Fixed tokens are not skipped if another token is in front. -/
theorem skip_eq_none {e : String} {es rest : List String} (h : rest.head? ≠ some e) :
    skip (e :: es) rest = none := by
  cases rest with
  | nil => rfl
  | cons t ts =>
    have hne : t ≠ e := fun ht => h (by rw [ht]; rfl)
    rw [skip, if_neg hne]

/-- A list of phrases is read if each of them is.  The separator may follow a phrase, but the list
ends where it does not. -/
theorem reads_list {read : Reader α} {f : α → List String} {follows : Option String → Prop}
    (separator : String) (hsep : follows (some separator)) {l : List α} (hne : l ≠ [])
    (h : ∀ a ∈ l, Reads read (f a) a follows) :
    Reads (readList separator read) ([separator].intercalate (l.map f)) l
      fun t => follows t ∧ t ≠ some separator := by
  induction l with
  | nil => exact absurd rfl hne
  | cons a l ih =>
    intro rest ⟨hrest, hend⟩
    have ha := h a List.mem_cons_self
    cases l with
    | nil =>
      rw [List.map_singleton, List.intercalate_singleton, readList, ha rest hrest]
      simp only [skip_eq_none hend]
    | cons b l =>
      have ih := ih (List.cons_ne_nil _ _) (fun c hc => h c (List.mem_cons_of_mem _ hc)) rest
        ⟨hrest, hend⟩
      simp only [List.map_cons] at ih ⊢
      rw [List.intercalate_cons_cons, List.append_assoc, List.append_assoc, readList,
        ha _ (by exact hsep)]
      -- what is left after the separator is shorter than the whole
      simp only [skip_append, ih, List.length_append, Option.map_some]
      rw [if_pos (by simp only [List.length_singleton]; omega)]

/-- Phrases that start with a token are read if each of them is.  The token that starts a phrase may
also follow one, and what follows the last phrase must be another one. -/
theorem reads_many {read : Reader α} {f : α → List String} {follows : Option String → Prop}
    (start : String) (hstart : follows (some start)) {l : List α}
    (hfirst : ∀ a ∈ l, (f a).head? = some start) (h : ∀ a ∈ l, Reads read (f a) a follows) :
    Reads (readMany start read) (l.flatMap f) l fun t => follows t ∧ t ≠ some start := by
  induction l with
  | nil =>
    intro rest ⟨_, hend⟩
    rw [List.flatMap_nil, List.nil_append, readMany]
    simp only [skip_eq_none hend]
  | cons a l ih =>
    intro rest ⟨hrest, hend⟩
    have ih := ih (fun b hb => hfirst b (List.mem_cons_of_mem _ hb))
      (fun b hb => h b (List.mem_cons_of_mem _ hb)) rest ⟨hrest, hend⟩
    have hnext : follows (l.flatMap f ++ rest).head? := by
      cases l with
      | nil => exact hrest
      | cons b l =>
        rw [List.flatMap_cons, List.append_assoc, List.head?_append,
          hfirst b (List.mem_cons_of_mem _ List.mem_cons_self)]
        exact hstart
    obtain ⟨t, ts, hts⟩ : ∃ t ts, f a = t :: ts := by
      cases hf : f a with
      | nil =>
        have := hfirst a List.mem_cons_self
        rw [hf] at this
        cases this
      | cons t ts => exact ⟨t, ts, rfl⟩
    have ht : t = start := by
      have := hfirst a List.mem_cons_self
      rw [hts] at this
      exact Option.some.inj this
    have ha := h a List.mem_cons_self _ hnext
    rw [List.flatMap_cons, List.append_assoc, readMany, ha]
    have hskip : skip [start] (f a ++ (l.flatMap f ++ rest))
        = some (ts ++ (l.flatMap f ++ rest)) := by
      rw [hts, ht, List.cons_append, skip, if_pos rfl, skip]
    simp only [hskip, ih, Option.map_some]
    rw [if_pos (by rw [hts]; simp only [List.length_append, List.length_cons]; omega)]

/-- The tokens of a clause: none for no phrases, and otherwise the fixed tokens and the
phrases. -/
def clauseTokens (start : List String) (separator : String) (phrases : List (List String)) :
    List String :=
  if phrases = [] then [] else start ++ [separator].intercalate phrases

/-- A clause is read if its phrases are.  A clause without phrases is not printed, and its absence
is read as no phrases. -/
theorem reads_clause {read : Reader α} {f : α → List String} {follows : Option String → Prop}
    (start : String) (more : List String) (separator : String) (hsep : follows (some separator))
    {l : List α} (h : ∀ a ∈ l, Reads read (f a) a follows) :
    Reads (readClause (start :: more) separator read)
      (clauseTokens (start :: more) separator (l.map f)) l
      fun t => follows t ∧ t ≠ some separator ∧ t ≠ some start := by
  intro rest ⟨hrest, hend, hnot⟩
  unfold clauseTokens readClause
  cases l with
  | nil =>
    rw [List.map_nil, if_pos rfl, List.nil_append, skip_eq_none hnot]
  | cons a l =>
    rw [if_neg (by simp), List.append_assoc, skip_append]
    exact reads_list separator hsep (List.cons_ne_nil _ _) h rest ⟨hrest, hend⟩

/-! ### Names and numbers -/

theorem reads_name {t : String} (h : isName t = true) : Reads readName [t] t fun _ => True := by
  intro rest _
  rw [List.singleton_append, readName, if_pos h]

theorem readName_eq_none {rest : List String} (h : ∀ t, rest.head? = some t → isName t = false) :
    readName rest = none := by
  cases rest with
  | nil => rfl
  | cons t ts => rw [readName, h t rfl, if_neg Bool.false_ne_true]

theorem reads_number (n : Nat) : Reads readNumber [Decimal.ofNat n] n fun _ => True := by
  intro rest _
  rw [List.singleton_append, readNumber, if_pos (isNumeral_ofNat n), Decimal.value_ofNat]

theorem ofNat_ne (n : Nat) {t : String} (h : isNumeral t = false) : Decimal.ofNat n ≠ t := by
  rintro rfl
  rw [isNumeral_ofNat] at h
  cases h

theorem isName_ofNat (n : Nat) : isName (Decimal.ofNat n) = false := by
  cases h : isName (Decimal.ofNat n) with
  | false => rfl
  | true =>
    have := isNumeral_of_isName h
    rw [isNumeral_ofNat] at this
    cases this

theorem tokens_placeholder (number : Nat) :
    tokens (placeholderText number) = ["$", Decimal.ofNat number] := by
  rw [placeholderText, tokens_append_right _ (by rfl), tokens_numeral (isNumeral_ofNat number)]
  rfl

theorem reads_placeholder (number : Nat) :
    Reads readPlaceholder (tokens (placeholderText number)) number fun _ => True := by
  intro rest _
  rw [tokens_placeholder, readPlaceholder]
  exact reads_number number rest trivial

/-- The tokens of a signed number: its digits, after a sign if it is negative.  The least number has
no opposite of 64 bits, so the two cases have bounds of their own. -/
theorem tokens_ofInt64 (n : Int64) :
    (∃ m, m ≤ Decimal.maxInt64 ∧ n.toInt = Int.ofNat m
        ∧ tokens (Decimal.ofInt64 n) = [Decimal.ofNat m])
      ∨ ∃ m, m ≤ Decimal.maxInt64 + 1 ∧ n.toInt = -Int.ofNat m
        ∧ tokens (Decimal.ofInt64 n) = ["-", Decimal.ofNat m] := by
  have hle := n.toInt_lt
  have hge := n.le_toInt
  unfold Decimal.ofInt64 Decimal.maxInt64
  cases hn : n.toInt with
  | ofNat m =>
    refine .inl ⟨m, ?_, rfl, tokens_numeral (isNumeral_ofNat m)⟩
    rw [hn] at hle
    have hlt : m < 9223372036854775808 := Int.ofNat_lt.1 hle
    omega
  | negSucc m =>
    refine .inr ⟨m + 1, ?_, rfl, ?_⟩
    · rw [hn] at hge
      have hlt : (m : Int) < 9223372036854775808 := by omega
      omega
    · rw [Decimal.ofInt, tokens_append_right _ (by rfl), tokens_numeral (isNumeral_ofNat _)]
      rfl

/-- A signed number starts with no name and no placeholder. -/
theorem exists_tokens_ofInt64 (n : Int64) :
    ∃ t ts, tokens (Decimal.ofInt64 n) = t :: ts ∧ isName t = false ∧ t ≠ "$" := by
  rcases tokens_ofInt64 n with ⟨m, -, -, hts⟩ | ⟨m, -, -, hts⟩
  · exact ⟨_, _, hts, isName_ofNat m, ofNat_ne m rfl⟩
  · exact ⟨_, _, hts, rfl, by decide⟩

/-- A signed number is read. -/
theorem reads_integer (n : Int64) :
    Reads readInteger (tokens (Decimal.ofInt64 n)) n fun _ => True := by
  intro rest _
  unfold readInteger
  rcases tokens_ofInt64 n with ⟨m, hm, hn, hts⟩ | ⟨m, hm, hn, hts⟩
  · have hsign : skip ["-"] ([Decimal.ofNat m] ++ rest) = none :=
      skip_eq_none fun h => ofNat_ne m (t := "-") rfl (Option.some.inj h)
    have hread := reads_number m rest trivial
    rw [hts, hsign]
    simp only [hread, Option.bind_eq_bind, Option.bind_some, if_pos hm]
    rw [← Int.ofNat_eq_natCast, ← hn, Int64.ofInt_toInt]
  · have hread := reads_number m rest trivial
    have hsign : skip ["-"] (["-", Decimal.ofNat m] ++ rest) = some ([Decimal.ofNat m] ++ rest) :=
      skip_append ["-"] _
    rw [hts, hsign]
    simp only [hread, Option.bind_eq_bind, Option.bind_some, if_pos hm]
    rw [← Int.ofNat_eq_natCast, ← hn, Int64.ofInt_toInt]

/-! ### Columns and comparisons -/

/-- The relation, if there is one, and the column are names. -/
def Column.isNamed (c : Column) : Bool := c.relation.all isName && isName c.name

/-- A column that an operand mentions has names. -/
def Operand.isNamed : Operand → Bool
  | .column c => c.isNamed
  | .placeholder _ | .integer _ => true

/-- The columns that a comparison mentions have names. -/
def Comparison.isNamed : Comparison → Bool
  | .equal left right | .atMost left right => left.isNamed && right.isNamed

/-- A table, and the other name for it if there is one, are names. -/
def Source.isNamed (s : Source) : Bool := isName s.table && s.shortName.all isName

/-- There are comparisons, and the columns they mention have names. -/
def areComparisons (l : List Comparison) : Bool := !l.isEmpty && l.all Comparison.isNamed

/-- A column is read, unless a point follows it. -/
theorem reads_column {c : Column} (h : c.isNamed = true) :
    Reads readColumn (tokens c.text) c (· ≠ some ".") := by
  intro rest hrest
  obtain ⟨relation, name⟩ := c
  rw [Column.isNamed, Bool.and_eq_true] at h
  obtain ⟨hrelation, hname⟩ := h
  unfold readColumn Column.text
  cases relation with
  | none =>
    simp only [tokens_name hname, reads_name hname rest trivial, skip_eq_none hrest,
      Option.bind_eq_bind, Option.bind_some]
  | some relation =>
    have hrelation : isName relation = true := by simpa using hrelation
    have hts : tokens (relation ++ "." ++ name) ++ rest
        = [relation] ++ (["."] ++ ([name] ++ rest)) := by
      rw [tokens_around _ _ (by decide) (by rfl) (by rfl), tokens_name hrelation, tokens_name hname]
      rfl
    simp only [hts, reads_name hrelation _ trivial, reads_name hname rest trivial, skip_append,
      Option.bind_eq_bind, Option.bind_some]

theorem readColumn_eq_none {rest : List String}
    (h : ∀ t, rest.head? = some t → isName t = false) : readColumn rest = none := by
  rw [readColumn, readName_eq_none h]
  rfl

/-- An operand is read, unless a point follows it.  The first token tells the three kinds apart: a
name, a dollar sign, or a digit or a minus sign. -/
theorem reads_operand {o : Operand} (h : o.isNamed = true) :
    Reads readOperand (tokens o.text) o (· ≠ some ".") := by
  intro rest hrest
  unfold readOperand
  cases o with
  | column c => rw [Operand.text, reads_column h rest hrest]
  | placeholder number =>
    have hcolumn : readColumn (tokens (placeholderText number) ++ rest) = none := by
      rw [tokens_placeholder]
      refine readColumn_eq_none fun t ht => ?_
      obtain rfl : "$" = t := Option.some.inj ht
      rfl
    rw [Operand.text, hcolumn, reads_placeholder number rest trivial]
  | integer n =>
    have hread := reads_integer n rest trivial
    -- the readers that are tried before the one of numbers must fail
    obtain ⟨t, ts, hts, hname, hdollar⟩ := exists_tokens_ofInt64 n
    have hcolumn : readColumn (tokens (Decimal.ofInt64 n) ++ rest) = none := by
      rw [hts]
      refine readColumn_eq_none fun t' ht' => ?_
      obtain rfl : t = t' := Option.some.inj ht'
      exact hname
    have hplaceholder : readPlaceholder (tokens (Decimal.ofInt64 n) ++ rest) = none := by
      have hskip : skip ["$"] (t :: ts ++ rest) = none :=
        skip_eq_none fun h => hdollar (Option.some.inj h)
      rw [hts, readPlaceholder, hskip]
      rfl
    rw [Operand.text, hcolumn, hplaceholder, hread]
    rfl

/-- A comparison is read, unless a point follows it. -/
theorem reads_comparison {c : Comparison} (h : c.isNamed = true) :
    Reads readComparison (tokens c.text) c (· ≠ some ".") := by
  intro rest hrest
  unfold readComparison
  cases c with
  | equal left right =>
    rw [Comparison.isNamed, Bool.and_eq_true] at h
    have hts : tokens (Comparison.equal left right).text ++ rest
        = tokens left.text ++ (["="] ++ (tokens right.text ++ rest)) := by
      rw [Comparison.text, tokens_around _ _ (by decide) (by rfl) (by rfl), List.append_assoc,
        List.append_assoc]
      rfl
    have hleft := reads_operand h.1 (["="] ++ (tokens right.text ++ rest)) (by simp)
    simp only [hts, hleft, skip_append, reads_operand h.2 rest hrest, Option.bind_eq_bind,
      Option.bind_some]
  | atMost left right =>
    rw [Comparison.isNamed, Bool.and_eq_true] at h
    have hts : tokens (Comparison.atMost left right).text ++ rest
        = tokens left.text ++ (["<", "="] ++ (tokens right.text ++ rest)) := by
      rw [Comparison.text, tokens_around _ _ (by decide) (by rfl) (by rfl), List.append_assoc,
        List.append_assoc]
      rfl
    have hleft := reads_operand h.1 (["<", "="] ++ (tokens right.text ++ rest)) (by simp)
    have hequal : skip ["="] (["<", "="] ++ (tokens right.text ++ rest)) = none :=
      skip_eq_none (by simp)
    simp only [hts, hleft, hequal, skip_append, reads_operand h.2 rest hrest,
      Option.bind_eq_bind, Option.bind_some]

/-- Comparisons are read, unless a point or one more comparison follows. -/
theorem reads_comparisons {l : List Comparison} (h : areComparisons l = true) :
    Reads (readList "AND" readComparison) (tokens (allText l)) l
      fun t => t ≠ some "." ∧ t ≠ some "AND" := by
  rw [areComparisons, Bool.and_eq_true, List.all_eq_true] at h
  have hts : tokens (allText l) = ["AND"].intercalate (l.map fun c => tokens c.text) := by
    rw [allText, tokens_intercalate (by decide) (by rfl) (by rfl), List.map_map]
    rfl
  rw [hts]
  exact reads_list "AND" (by simp) (by simpa using h.1) fun c hc => reads_comparison (h.2 c hc)

/-- A source is read, unless a name follows it. -/
theorem reads_source {s : Source} (h : s.isNamed = true) :
    Reads readSource (tokens s.text) s fun t => ∀ t', t = some t' → isName t' = false := by
  intro rest hrest
  obtain ⟨table, shortName⟩ := s
  rw [Source.isNamed, Bool.and_eq_true] at h
  obtain ⟨htable, hshort⟩ := h
  unfold readSource Source.text
  cases shortName with
  | none =>
    simp only [tokens_name htable, reads_name htable rest trivial, readName_eq_none hrest,
      Option.bind_eq_bind, Option.bind_some]
  | some name =>
    have hname : isName name = true := by simpa using hshort
    have hts : tokens (table ++ " " ++ name) ++ rest = [table] ++ ([name] ++ rest) := by
      rw [tokens_around _ _ (by decide) (by rfl) (by rfl), tokens_name htable, tokens_name hname]
      rfl
    simp only [hts, reads_name htable _ trivial, reads_name hname rest trivial,
      Option.bind_eq_bind, Option.bind_some]

end DesignHistory.Sql
