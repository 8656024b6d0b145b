import DesignHistory.Proofs.Sql.Phrases

/-!
# Printing and reading statements

A printed statement is read as the statement that it was printed from.

## Main definitions

* `Sql.Statement.isWellFormed`: what should be names is names, and no list is empty that
  SQL does not let be empty.

## Main statements

* `Sql.reads_condition`, `Sql.reads_with`, `Sql.reads_join`: the parts of a statement.
* `Sql.read_text`: the text of a well-formed statement is read as the statement.
-/

namespace DesignHistory.Sql

/-! ### Well-formed statements -/

/-- The parts of a condition are well-formed. -/
def Condition.isWellFormed : Condition → Bool
  | .compare c => c.isNamed
  | .someRow source comparisons | .noRow source comparisons =>
    source.isNamed && areComparisons comparisons
  | .emptyOrAmong operand _ _ => operand.isNamed

/-- There are rows, and each of them has cells; or there are arrays. -/
def Inline.isWellFormed : Inline → Bool
  | .values rows => !rows.isEmpty && rows.all fun row => !row.isEmpty
  | .unnest arrays => !arrays.isEmpty

/-- The relation has columns, all with names, and well-formed rows. -/
def With.isWellFormed (w : With) : Bool :=
  isName w.name && !w.columns.isEmpty && w.columns.all isName && w.rows.isWellFormed

/-- There are columns, all with names; or the count of one is named. -/
def Projection.isWellFormed : Projection → Bool
  | .columns l => !l.isEmpty && l.all Column.isNamed
  | .count c label => c.isNamed && isName label

/-- The parts of a join are well-formed. -/
def Join.isWellFormed (j : Join) : Bool := j.source.isNamed && areComparisons j.on

/-- The parts of a statement are well-formed: names are names, and no list is empty that is printed
as one.  It can be computed. -/
def Statement.isWellFormed (s : Statement) : Bool :=
  s.common.all With.isWellFormed && s.projection.isWellFormed && s.source.isNamed
    && s.joins.all Join.isWellFormed && s.conditions.all Condition.isWellFormed
    && s.order.all fun o => o.column.isNamed

/-! ### Conditions -/

/-- The tokens of an array parameter. -/
theorem tokens_array (number : Nat) (type : ArrayType) :
    tokens (arrayText number type) = tokens (placeholderText number) ++ [":", ":"]
      ++ (match type with
          | .bigint => ["bigint", "[", "]"]
          | .text => ["text", "[", "]"]) := by
  cases type with
  | bigint =>
    rw [arrayText, tokens_append_left _ (by rfl), List.append_assoc]
    rfl
  | text =>
    rw [arrayText, tokens_append_left _ (by rfl), List.append_assoc]
    rfl

/-- An array parameter is read. -/
theorem reads_array (a : Nat × ArrayType) :
    Reads readArray (tokens (arrayText a.1 a.2)) a fun _ => True := by
  intro rest _
  obtain ⟨number, type⟩ := a
  unfold readArray
  rw [tokens_array, List.append_assoc, List.append_assoc]
  cases type with
  | bigint =>
    have hts : (["bigint", "[", "]"] : List String) ++ rest = ["bigint"] ++ (["[", "]"] ++ rest) :=
      rfl
    simp only [reads_placeholder number _ trivial, hts, skip_append, Option.bind_eq_bind,
      Option.bind_some]
  | text =>
    have hskip : skip ["bigint"] (["text", "[", "]"] ++ rest) = none := skip_eq_none (by simp)
    simp only [reads_placeholder number _ trivial, hskip, skip_append, Option.bind_eq_bind,
      Option.bind_some]

/-- The rows of a table for which comparisons hold are read.  A bracket ends them, so that anything
may follow. -/
theorem reads_subselect {source : Source} {comparisons : List Comparison}
    (hsource : source.isNamed = true) (hcomparisons : areComparisons comparisons = true) :
    Reads readSubselect (tokens (subselectText source comparisons)) (source, comparisons)
      fun _ => True := by
  intro rest _
  have hts : tokens (subselectText source comparisons) ++ rest
      = ["(", "SELECT", "1", "FROM"] ++ (tokens source.text
          ++ (["WHERE"] ++ (tokens (allText comparisons) ++ ([")"] ++ rest)))) := by
    have hopen : tokens "( SELECT 1 FROM " = ["(", "SELECT", "1", "FROM"] := rfl
    unfold subselectText
    rw [tokens_append_left _ (by rfl), tokens_around _ _ (by decide) (by rfl) (by rfl),
      tokens_append_right _ (by rfl), hopen]
    simp only [List.append_assoc]
    rfl
  have hsource := reads_source hsource
    (["WHERE"] ++ (tokens (allText comparisons) ++ ([")"] ++ rest)))
    (fun t ht => by obtain rfl : "WHERE" = t := Option.some.inj ht; rfl)
  have hcomparisons := reads_comparisons hcomparisons ([")"] ++ rest) (by simp)
  unfold readSubselect
  simp only [hts, hsource, hcomparisons, skip_append, Option.bind_eq_bind, Option.bind_some]

/-- Where a phrase starts with a keyword, it is no comparison.  The kinds of conditions are told
apart by their first token. -/
theorem readComparison_eq_none {t : String} {rest : List String} (hname : isName t = false)
    (hnumeral : isNumeral t = false) (hplaceholder : t ≠ "$") (hsign : t ≠ "-") :
    readComparison (t :: rest) = none := by
  have hcolumn : readColumn (t :: rest) = none :=
    readColumn_eq_none fun t' ht' => Option.some.inj ht' ▸ hname
  have hdollar : skip ["$"] (t :: rest) = none :=
    skip_eq_none fun h => hplaceholder (Option.some.inj h)
  have hminus : skip ["-"] (t :: rest) = none := skip_eq_none fun h => hsign (Option.some.inj h)
  have hplaceholder : readPlaceholder (t :: rest) = none := by
    rw [readPlaceholder, hdollar]
    rfl
  have hinteger : readInteger (t :: rest) = none := by
    rw [readInteger, hminus]
    simp [readNumber, hnumeral]
  unfold readComparison readOperand
  rw [hcolumn, hplaceholder, hinteger]
  rfl

/-- A condition is read, unless a point follows it.  In each case the first token rules out the
kinds of conditions that are tried before. -/
theorem reads_condition {c : Condition} (h : c.isWellFormed = true) :
    Reads readCondition (tokens c.text) c (· ≠ some ".") := by
  intro rest hrest
  unfold readCondition
  cases c with
  | compare c =>
    have htext : (Condition.compare c).text = c.text := rfl
    rw [htext, reads_comparison h rest hrest]
  | someRow source comparisons =>
    rw [Condition.isWellFormed, Bool.and_eq_true] at h
    have hts : tokens (Condition.someRow source comparisons).text ++ rest
        = ["EXISTS"] ++ (tokens (subselectText source comparisons) ++ rest) := by
      show tokens ("EXISTS " ++ subselectText source comparisons) ++ rest = _
      rw [tokens_append_right _ (by rfl), List.append_assoc]
      rfl
    rw [hts, skip_append]
    simp only [List.cons_append, List.nil_append,
      readComparison_eq_none (t := "EXISTS") (by rfl) (by rfl) (by decide) (by decide),
      reads_subselect h.1 h.2 rest trivial, Option.map_some]
  | noRow source comparisons =>
    rw [Condition.isWellFormed, Bool.and_eq_true] at h
    have hts : tokens (Condition.noRow source comparisons).text ++ rest
        = ["NOT", "EXISTS"] ++ (tokens (subselectText source comparisons) ++ rest) := by
      show tokens ("NOT EXISTS " ++ subselectText source comparisons) ++ rest = _
      rw [tokens_append_right _ (by rfl), List.append_assoc]
      rfl
    have hexists : skip ["EXISTS"] (["NOT", "EXISTS"]
        ++ (tokens (subselectText source comparisons) ++ rest)) = none := skip_eq_none (by simp)
    rw [hts, hexists, skip_append]
    simp only [List.cons_append, List.nil_append,
      readComparison_eq_none (t := "NOT") (by rfl) (by rfl) (by decide) (by decide),
      reads_subselect h.1 h.2 rest trivial, Option.map_some]
  | emptyOrAmong operand number type =>
    have hts : tokens (Condition.emptyOrAmong operand number type).text ++ rest
        = ["(", "cardinality", "("] ++ (tokens (arrayText number type)
          ++ ([")", "=", "0", "OR"] ++ (tokens operand.text
            ++ (["=", "ANY", "("] ++ (tokens (placeholderText number)
              ++ ([")", ")"] ++ rest)))))) := by
      show tokens ("(cardinality(" ++ arrayText number type ++ ") = 0 OR " ++ operand.text
        ++ " = ANY(" ++ placeholderText number ++ "))") ++ rest = _
      rw [tokens_append_left _ (by rfl), tokens_around _ _ (by decide) (by rfl) (by rfl),
        tokens_around _ _ (by decide) (by rfl) (by rfl), tokens_append_right _ (by rfl)]
      simp only [List.append_assoc]
      rfl
    have hoperand := reads_operand h
      (["=", "ANY", "("] ++ (tokens (placeholderText number) ++ ([")", ")"] ++ rest))) (by simp)
    have hread : readEmptyOrAmong (tokens (Condition.emptyOrAmong operand number type).text ++ rest)
        = some (.emptyOrAmong operand number type, rest) := by
      unfold readEmptyOrAmong
      simp only [hts, skip_append, reads_array (number, type) _ trivial, hoperand,
        reads_placeholder number _ trivial, Option.bind_eq_bind, Option.bind_some, if_true]
    rw [hread, hts]
    simp only [List.cons_append, List.nil_append,
      readComparison_eq_none (t := "(") (by rfl) (by rfl) (by decide) (by decide)]
    rfl

/-! ### Relations given in a statement -/

/-- A number with its cast is read. -/
theorem reads_cast (n : Int64) :
    Reads readCast (tokens (Decimal.ofInt64 n ++ "::bigint")) n fun _ => True := by
  intro rest _
  have hts : tokens (Decimal.ofInt64 n ++ "::bigint") ++ rest
      = tokens (Decimal.ofInt64 n) ++ ([":", ":", "bigint"] ++ rest) := by
    rw [tokens_append_left _ (by rfl), List.append_assoc]
    rfl
  unfold readCast
  simp only [hts, reads_integer n _ trivial, skip_append, Option.bind_eq_bind, Option.bind_some]

theorem tokens_commas (l : List String) :
    tokens (", ".intercalate l) = [","].intercalate (l.map tokens) :=
  tokens_intercalate (by decide) (by rfl) (by rfl) l

/-- A row of numbers is read, if there are any. -/
theorem reads_row {row : List Int64} (hne : row ≠ []) :
    Reads readRow (tokens (rowText row)) row fun _ => True := by
  intro rest _
  have hts : tokens (rowText row) ++ rest
      = ["("] ++ ([","].intercalate (row.map fun n => tokens (Decimal.ofInt64 n ++ "::bigint"))
          ++ ([")"] ++ rest)) := by
    unfold rowText
    rw [tokens_append_left _ (by rfl), tokens_append_right _ (by rfl), tokens_commas, List.map_map]
    simp only [List.append_assoc]
    rfl
  have hlist := reads_list "," trivial hne (fun n _ => reads_cast n)
    ([")"] ++ rest) ⟨trivial, by simp⟩
  unfold readRow
  simp only [hts, hlist, skip_append, Option.bind_eq_bind, Option.bind_some]

/-- The rows of an inline relation are read, unless a comma follows.  The two kinds of relations
start with different keywords. -/
theorem reads_inline {i : Inline} (h : i.isWellFormed = true) :
    Reads readInline (tokens i.text) i (· ≠ some ",") := by
  intro rest hrest
  unfold readInline
  cases i with
  | values rows =>
    simp only [Inline.isWellFormed, Bool.and_eq_true, Bool.not_eq_true', List.all_eq_true,
      List.isEmpty_eq_false_iff] at h
    have hts : tokens (Inline.values rows).text ++ rest
        = ["VALUES"] ++ ([","].intercalate (rows.map fun row => tokens (rowText row)) ++ rest) := by
      unfold Inline.text
      rw [tokens_append_right _ (by rfl), tokens_commas, List.map_map, List.append_assoc]
      rfl
    have hlist := reads_list "," trivial h.1 (fun row hrow => reads_row (h.2 row hrow))
      rest ⟨trivial, hrest⟩
    rw [hts, skip_append]
    simp only [hlist, Option.map_some]
  | unnest arrays =>
    simp only [Inline.isWellFormed, Bool.not_eq_true', List.isEmpty_eq_false_iff] at h
    have hts : tokens (Inline.unnest arrays).text ++ rest
        = ["SELECT", "*", "FROM", "UNNEST", "("]
          ++ ([","].intercalate (arrays.map fun a => tokens (arrayText a.1 a.2))
            ++ ([")"] ++ rest)) := by
      unfold Inline.text
      rw [tokens_append_left _ (by rfl), tokens_append_right _ (by rfl), tokens_commas,
        List.map_map]
      simp only [List.append_assoc]
      rfl
    have hvalues : skip ["VALUES"] (["SELECT", "*", "FROM", "UNNEST", "("]
        ++ ([","].intercalate (arrays.map fun a => tokens (arrayText a.1 a.2)) ++ ([")"] ++ rest)))
        = none := skip_eq_none (by simp)
    have hlist := reads_list "," trivial h (fun a _ => reads_array a)
      ([")"] ++ rest) ⟨trivial, by simp⟩
    rw [hts, hvalues]
    simp only [hlist, skip_append, Option.bind_eq_bind, Option.bind_some]

/-- A named relation is read. -/
theorem reads_with {w : With} (h : w.isWellFormed = true) :
    Reads readWith (tokens w.text) w fun _ => True := by
  intro rest _
  simp only [With.isWellFormed, Bool.and_eq_true, Bool.not_eq_true', List.all_eq_true,
    List.isEmpty_eq_false_iff] at h
  obtain ⟨⟨⟨hname, hne⟩, hcolumns⟩, hrows⟩ := h
  have hcolumnTokens : tokens (", ".intercalate w.columns) = [","].intercalate
      (w.columns.map fun c => [c]) := by
    rw [tokens_commas]
    exact congrArg _ (List.map_congr_left fun c hc => tokens_name (hcolumns c hc))
  have hts : tokens w.text ++ rest
      = ["WITH"] ++ ([w.name] ++ (["("] ++ ([","].intercalate (w.columns.map fun c => [c])
          ++ ([")", "AS", "("] ++ (tokens w.rows.text ++ ([")"] ++ rest)))))) := by
    unfold With.text
    rw [tokens_append_left _ (by rfl), tokens_around _ _ (by decide) (by rfl) (by rfl),
      tokens_around _ _ (by decide) (by rfl) (by rfl), tokens_append_right _ (by rfl),
      tokens_name hname, hcolumnTokens]
    simp only [List.append_assoc]
    rfl
  have hlist := reads_list "," trivial hne
    (fun c hc => reads_name (hcolumns c hc))
    ([")", "AS", "("] ++ (tokens w.rows.text ++ ([")"] ++ rest)))
    ⟨trivial, by simp⟩
  unfold readWith
  simp only [hts, reads_name hname _ trivial, hlist, reads_inline hrows ([")"] ++ rest) (by simp),
    skip_append, Option.bind_eq_bind, Option.bind_some]

/-! ### Statements -/

/-- A projection is read, unless a point or a comma follows it.  Columns are tried first, and fail
for a count because its keyword is no name. -/
theorem reads_projection {p : Projection} (h : p.isWellFormed = true) :
    Reads readProjection (tokens p.text) p fun t => t ≠ some "." ∧ t ≠ some "," := by
  intro rest hrest
  unfold readProjection
  cases p with
  | columns l =>
    simp only [Projection.isWellFormed, Bool.and_eq_true, Bool.not_eq_true', List.all_eq_true,
      List.isEmpty_eq_false_iff] at h
    have hts : tokens (Projection.columns l).text
        = [","].intercalate (l.map fun c => tokens c.text) := by
      unfold Projection.text
      rw [tokens_commas, List.map_map]
      rfl
    have hlist := reads_list "," (by simp) h.1
      (fun c hc => reads_column (h.2 c hc)) rest hrest
    rw [hts, hlist]
  | count c label =>
    rw [Projection.isWellFormed, Bool.and_eq_true] at h
    have hts : tokens (Projection.count c label).text ++ rest
        = ["COUNT", "("] ++ (tokens c.text ++ ([")", "AS"] ++ ([label] ++ rest))) := by
      unfold Projection.text
      rw [tokens_around _ _ (by decide) (by rfl) (by rfl), tokens_append_right _ (by rfl),
        tokens_name h.2]
      simp only [List.append_assoc]
      rfl
    have hlist : readList "," readColumn
        (["COUNT", "("] ++ (tokens c.text ++ ([")", "AS"] ++ ([label] ++ rest)))) = none := by
      rw [readList, readColumn_eq_none]
      intro t ht
      obtain rfl : "COUNT" = t := Option.some.inj ht
      rfl
    have hcolumn := reads_column h.1 ([")", "AS"] ++ ([label] ++ rest)) (by simp)
    rw [hts, hlist]
    simp only [hcolumn, reads_name h.2 rest trivial, skip_append, Option.bind_eq_bind,
      Option.bind_some]

/-- A join is read, unless a point or one more comparison follows. -/
theorem reads_join {j : Join} (h : j.isWellFormed = true) :
    Reads readJoin (tokens j.text) j fun t => t ≠ some "." ∧ t ≠ some "AND" := by
  intro rest hrest
  rw [Join.isWellFormed, Bool.and_eq_true] at h
  have hts : tokens j.text ++ rest
      = ["INNER", "JOIN"]
        ++ (tokens j.source.text ++ (["ON"] ++ (tokens (allText j.on) ++ rest))) := by
    unfold Join.text
    rw [tokens_around _ _ (by decide) (by rfl) (by rfl), tokens_append_right _ (by rfl)]
    simp only [List.append_assoc]
    rfl
  have hsource := reads_source h.1 (["ON"] ++ (tokens (allText j.on) ++ rest))
    (fun t ht => by obtain rfl : "ON" = t := Option.some.inj ht; rfl)
  unfold readJoin
  simp only [hts, hsource, reads_comparisons h.2 rest hrest, skip_append, Option.bind_eq_bind,
    Option.bind_some]

/-- A sort column is read, unless a point or a direction follows it. -/
theorem reads_order {o : Order} (h : o.column.isNamed = true) :
    Reads readOrder (tokens o.text) o fun t => t ≠ some "." ∧ t ≠ some "DESC" := by
  intro rest ⟨hpoint, hdirection⟩
  obtain ⟨column, descending⟩ := o
  unfold readOrder
  cases descending with
  | false =>
    have htext : Order.text ⟨column, false⟩ = column.text := String.append_empty
    simp only [htext, reads_column h rest hpoint, skip_eq_none hdirection, Option.bind_eq_bind,
      Option.bind_some]
  | true =>
    have hts : tokens (Order.text ⟨column, true⟩) ++ rest
        = tokens column.text ++ (["DESC"] ++ rest) := by
      show tokens (column.text ++ " DESC") ++ rest = _
      rw [tokens_append_left _ (by rfl), List.append_assoc]
      rfl
    have hcolumn := reads_column h (["DESC"] ++ rest) (by simp)
    simp only [hts, hcolumn, skip_append, Option.bind_eq_bind, Option.bind_some]

/-- The tokens of the joins of a statement. -/
theorem tokens_joins (joins : List Join) :
    startsApart (String.join (joins.map Join.text)) = true
      ∧ tokens (String.join (joins.map Join.text)) = joins.flatMap fun j => tokens j.text := by
  have hstart : ∀ s ∈ joins.map Join.text, startsApart s = true := by
    intro s hs
    obtain ⟨j, -, rfl⟩ := List.mem_map.1 hs
    unfold Join.text
    rw [String.append_assoc, String.append_assoc]
    exact startsApart_append_of_ne _ (by decide) (by rfl)
  obtain ⟨happart, htokens⟩ := tokens_join hstart
  exact ⟨happart, by rw [htokens, List.flatMap_map]⟩

/-- The tokens of a join start with a keyword. -/
theorem head?_tokens_join (j : Join) : (tokens j.text).head? = some "INNER" := by
  have hts : tokens j.text = tokens " INNER JOIN " ++ tokens j.source.text ++ tokens " ON "
      ++ tokens (allText j.on) := by
    unfold Join.text
    rw [tokens_around _ _ (by decide) (by rfl) (by rfl), tokens_append_right _ (by rfl)]
  rw [hts, List.append_assoc, List.append_assoc]
  rfl

/-- The tokens of the conditions of a statement. -/
theorem tokens_where (conditions : List Condition) :
    startsApart (whereText conditions) = true
      ∧ tokens (whereText conditions)
        = clauseTokens ["WHERE"] "AND" (conditions.map fun c => tokens c.text) := by
  cases conditions with
  | nil => exact ⟨rfl, rfl⟩
  | cons c rest =>
    unfold whereText clauseTokens
    refine ⟨startsApart_append_of_ne _ (by decide) (by rfl), ?_⟩
    rw [if_neg (by simp), tokens_append_right _ (by rfl),
      tokens_intercalate (by decide) (by rfl) (by rfl), List.map_map]
    rfl

/-- The tokens of the sort columns of a statement. -/
theorem tokens_orderBy (order : List Order) :
    startsApart (orderText order) = true
      ∧ tokens (orderText order)
        = clauseTokens ["ORDER", "BY"] "," (order.map fun o => tokens o.text) := by
  cases order with
  | nil => exact ⟨rfl, rfl⟩
  | cons o rest =>
    unfold orderText clauseTokens
    refine ⟨startsApart_append_of_ne _ (by decide) (by rfl), ?_⟩
    rw [if_neg (by simp), tokens_append_right _ (by rfl), tokens_commas, List.map_map]
    rfl

/-- The text of the named relation in front of a statement. -/
def commonText : Option With → String
  | some w => w.text
  | none => ""

/-- The tokens of the named relation, up to the statement that uses it. -/
theorem tokens_common (common : Option With) :
    tokens (commonText common ++ "SELECT ") = tokens (commonText common) ++ ["SELECT"] := by
  cases common with
  | none => rfl
  | some w =>
    rw [tokens_append_right]
    · rfl
    · exact endsApart_append _ (by decide) (by rfl)

/-- A named relation in front of a statement is read, or that there is none. -/
theorem reads_common {common : Option With} (h : common.all With.isWellFormed = true) :
    Reads readCommon (tokens (commonText common)) common (· = some "SELECT") := by
  intro rest hrest
  unfold readCommon
  cases common with
  | none =>
    have hskip : skip ["WITH"] rest = none := skip_eq_none (by rw [hrest]; decide)
    have hts : tokens (commonText none) ++ rest = rest := rfl
    rw [hts, hskip]
  | some w =>
    have hread := reads_with (w := w) (by simpa using h) rest trivial
    have hskip : ∃ ts, skip ["WITH"] (tokens w.text ++ rest) = some ts := by
      unfold readWith at hread
      cases hs : skip ["WITH"] (tokens w.text ++ rest) with
      | none =>
        rw [hs] at hread
        cases hread
      | some ts => exact ⟨ts, rfl⟩
    obtain ⟨ts, hskip⟩ := hskip
    have htext : commonText (some w) = w.text := rfl
    rw [htext, hskip]
    simp only [hread, Option.map_some]

/-- The tokens of a statement, part by part. -/
theorem tokens_statement (s : Statement) :
    tokens s.text = tokens (commonText s.common) ++ (["SELECT"] ++ (tokens s.projection.text
      ++ (["FROM"] ++ (tokens s.source.text ++ ((s.joins.flatMap fun j => tokens j.text)
        ++ (clauseTokens ["WHERE"] "AND" (s.conditions.map fun c => tokens c.text)
          ++ clauseTokens ["ORDER", "BY"] "," (s.order.map fun o => tokens o.text))))))) := by
  show tokens (commonText s.common ++ "SELECT " ++ s.projection.text ++ " FROM " ++ s.source.text
    ++ String.join (s.joins.map Join.text) ++ whereText s.conditions ++ orderText s.order) = _
  rw [tokens_append_left _ (tokens_orderBy s.order).1, (tokens_orderBy s.order).2,
    tokens_append_left _ (tokens_where s.conditions).1, (tokens_where s.conditions).2,
    tokens_append_left _ (tokens_joins s.joins).1, (tokens_joins s.joins).2,
    tokens_around _ _ (by decide) (by rfl) (by rfl),
    tokens_append_right _ (endsApart_append _ (by decide) (by rfl)), tokens_common]
  simp only [List.append_assoc]
  rfl

/-- The first token of a clause, or of what follows if there is no clause. -/
theorem head?_clauseTokens (start : String) (more : List String) (separator : String)
    (phrases : List (List String)) (rest : List String) :
    (clauseTokens (start :: more) separator phrases ++ rest).head?
      = if phrases = [] then rest.head? else some start := by
  unfold clauseTokens
  split <;> rfl

/-- A text is read when its tokens are those of a statement and nothing else. -/
theorem read_eq_some_iff {s : String} {st : Statement} :
    read s = some st ↔ readStatement (tokens s) = some (st, []) := by
  unfold read
  constructor
  · intro h
    split at h
    · cases h
      assumption
    · cases h
  · intro h
    rw [h]

/-- **The text of a well-formed statement is read as the statement.** What a text means is therefore
the meaning of the statement that was printed. -/
theorem read_text {s : Statement} (h : s.isWellFormed = true) : read s.text = some s := by
  simp only [Statement.isWellFormed, Bool.and_eq_true, List.all_eq_true] at h
  obtain ⟨⟨⟨⟨⟨hcommon, hprojection⟩, hsource⟩, hjoins⟩, hconditions⟩, horder⟩ := h
  -- the clauses are read from the last one to the first, each with what follows it
  have horder := reads_clause "ORDER" ["BY"] "," (by simp)
    (fun o ho => reads_order (horder o ho)) [] ⟨by simp, by simp, by simp⟩
  rw [List.append_nil] at horder
  generalize hO : clauseTokens ["ORDER", "BY"] "," (s.order.map fun o => tokens o.text) = O
    at horder
  have hOhead : O.head? = none ∨ O.head? = some "ORDER" := by
    rw [← hO, ← List.append_nil (clauseTokens _ _ _), head?_clauseTokens]
    split
    · exact .inl rfl
    · exact .inr rfl
  have hwhere := reads_clause "WHERE" [] "AND" (by simp)
    (fun c hc => reads_condition (hconditions c hc)) O
    (by rcases hOhead with hO | hO <;> rw [hO] <;> simp)
  generalize hW : clauseTokens ["WHERE"] "AND" (s.conditions.map fun c => tokens c.text) ++ O = W
    at hwhere
  have hWhead : W.head? = none ∨ W.head? = some "WHERE" ∨ W.head? = some "ORDER" := by
    rw [← hW, head?_clauseTokens]
    split
    · exact hOhead.imp_right .inr
    · exact .inr (.inl rfl)
  have hmany := reads_many "INNER" (by simp) (fun j _ => head?_tokens_join j)
    (fun j hj => reads_join (hjoins j hj)) W
    (by rcases hWhead with hW | hW | hW <;> rw [hW] <;> simp)
  generalize hJ : (s.joins.flatMap fun j => tokens j.text) ++ W = J at hmany
  have hJhead : J.head? = W.head? ∨ J.head? = some "INNER" := by
    rw [← hJ]
    cases s.joins with
    | nil => exact .inl rfl
    | cons j rest =>
      rw [List.flatMap_cons, List.append_assoc, List.head?_append, head?_tokens_join]
      exact .inr rfl
  have hsource := reads_source hsource J (by
    intro t ht
    rcases hJhead with hJ | hJ
    · rw [hJ] at ht
      rcases hWhead with hW | hW | hW <;> rw [hW] at ht <;> cases ht <;> rfl
    · rw [hJ] at ht
      cases ht
      rfl)
  have hprojection := reads_projection hprojection (["FROM"] ++ (tokens s.source.text ++ J))
    (by simp)
  have hall : s.common.all With.isWellFormed = true := by simpa using hcommon
  have hcommon := reads_common hall
    (["SELECT"] ++ (tokens s.projection.text ++ (["FROM"] ++ (tokens s.source.text ++ J)))) rfl
  have hall : readStatement (tokens s.text) = some (s, []) := by
    rw [tokens_statement, hO, hW, hJ]
    unfold readStatement
    simp only [hcommon, hprojection, hsource, hmany, hwhere, horder, skip_append,
      Option.bind_eq_bind, Option.bind_some]
  exact read_eq_some_iff.2 hall

end DesignHistory.Sql
