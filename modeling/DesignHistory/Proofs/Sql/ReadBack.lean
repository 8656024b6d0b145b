import DesignHistory.Proofs.Sql.Selections

/-!
# A selection from its text

The text of a selection's statement says which selection was meant and what was asked about it:
the requested pins are the rows of the relation in front, the issue is the number in the
condition, and what is projected tells the two aspects apart.  Two selections therefore never
share a text.

One selection has to be read in its own way.  When no requested pin is left, the text has
`VALUES` without any row after it, which no statement of SQL has; the text is still told
apart from all others, because what stands after the empty relation is a statement.

## Main definitions

* `Selection.ofStatement?`: the selection and the aspect that a statement was made from.
* `Selection.ofText?`: the same from a text.

## Main statements

* `Selection.ofText?_text`: the text of every selection is read back.
* `Selection.text_determines_selection`: what two texts have in common.
-/

namespace DesignHistory

open Sql

namespace Selection

/-! ### From a statement -/

/-- The pin in a row of the relation in front. -/
def pinOfRow? : List Int64 → Option Pin
  | [designId, versionId] => some ⟨designId, versionId⟩
  | _ => none

/-- The pins that the relation in front of a statement requests, if there is one. -/
def pinsOf? : Option With → Option (Option (List Pin))
  | none => some none
  | some ⟨_, _, .values rows⟩ => (rows.mapM pinOfRow?).map some
  | some ⟨_, _, .unnest _⟩ => none

/-- The issue that the conditions of a statement name, if there are any. -/
def issueOf? : List Condition → Option (Option IssueId)
  | [] => some none
  | [.compare (.equal _ (.integer issueId))] => some (some issueId)
  | _ => none

/-- What is asked with a projection. -/
def aspectOf : Projection → Aspect
  | .count _ _ => .count
  | .columns _ => .records

/-- The selection that a statement was made from, and what it asks about it. -/
def ofStatement? (st : Statement) : Option (Selection × Aspect) := do
  let pins ← pinsOf? st.common
  let issueId ← issueOf? st.conditions
  some (⟨pins, issueId⟩, aspectOf st.projection)

/-- The requested pins are the rows of their relation. -/
theorem pinsOf?_pairs (pins : Option (List Pin)) : pinsOf? (pins.map pairs) = some pins := by
  cases pins with
  | none => rfl
  | some pins =>
    have hrows : (pins.map fun p => [p.designId, p.versionId]).mapM pinOfRow? = some pins := by
      induction pins with
      | nil => rfl
      | cons p rest ih =>
        rw [List.map_cons, List.mapM_cons, ih]
        rfl
    show ((pins.map fun p => [p.designId, p.versionId]).mapM pinOfRow?).map some = _
    rw [hrows]
    rfl

/-- A statement tells everything about the selection it was made from. -/
theorem ofStatement?_statement (s : Selection) (aspect : Aspect) :
    ofStatement? (s.statement aspect) = some (s, aspect) := by
  have hissue : issueOf? (s.statement aspect).conditions = some s.issueId := by
    show issueOf? (s.issueId.toList.map fun issueId =>
      .compare (.equal (col designsTable "issue_id") (.integer issueId))) = _
    cases s.issueId <;> rfl
  have haspect : aspectOf (s.statement aspect).projection = aspect := by
    cases aspect <;> rfl
  have hpins : pinsOf? (s.statement aspect).common = some s.pins := pinsOf?_pairs s.pins
  simp only [ofStatement?, hpins, hissue, haspect, Option.bind_eq_bind, Option.bind_some]

/-! ### From a text -/

/-- The tokens of the relation of requested pins when none is left. -/
def noPairs : List String :=
  ["WITH", "pairs", "(", "design_id", ",", "version_id", ")", "AS", "(", "VALUES", ")"]

/-- The selection whose statement has a text, and what the text asks about it.  The text of a
selection that matches nothing is no statement of SQL, and is recognised by its empty relation. -/
def ofText? (text : String) : Option (Selection × Aspect) :=
  match read text with
  | some st => ofStatement? st
  | none =>
    match (skip noPairs (tokens text)).bind readStatement with
    | some (st, []) =>
      (ofStatement? st).map fun (s, aspect) => ({ s with pins := some [] }, aspect)
    | _ => none

theorem tokens_pairs_nil : tokens (pairs []).text = noPairs := by rfl

/-- A text that starts with a relation without rows is not read as a statement.  The grammar has no
such relation, and so the text of a selection that matches nothing is told apart from all others. -/
theorem readStatement_noPairs (rest : List String) : readStatement (noPairs ++ rest) = none := by
  have htokens : noPairs ++ rest = ["WITH"] ++ (["pairs"] ++ (["("]
      ++ ([","].intercalate (["design_id", "version_id"].map fun c => [c])
        ++ ([")", "AS", "("] ++ (["VALUES"] ++ (")" :: rest)))))) := rfl
  have hcolumns := reads_list "," trivial (l := ["design_id", "version_id"]) (by decide)
    (fun c hc => reads_name (by revert c; decide))
    ([")", "AS", "("] ++ (["VALUES"] ++ (")" :: rest))) ⟨trivial, by simp⟩
  have hname := reads_name (t := "pairs") (by decide)
  -- a row would have to start with a parenthesis
  have hrow : readRow (")" :: rest) = none := rfl
  have hinline : readInline (["VALUES"] ++ (")" :: rest)) = none := by
    rw [readInline, skip_append]
    simp only
    rw [readList, hrow]
    rfl
  have hwith : readWith (noPairs ++ rest) = none := by
    rw [htokens]
    unfold readWith
    simp only [skip_append, hname _ trivial, hcolumns, hinline, Option.bind_eq_bind,
      Option.bind_some, Option.bind_none]
  have hcommon : readCommon (noPairs ++ rest) = none := by
    unfold readCommon
    rw [hwith, htokens, skip_append]
    rfl
  unfold readStatement
  rw [hcommon]
  rfl

/-- The text of a selection's statement is read back as the selection and the aspect.  A selection
that matches nothing is treated apart: its text is read without the empty relation in front. -/
theorem ofText?_text (s : Selection) (aspect : Aspect) :
    ofText? (s.statement aspect).text = some (s, aspect) := by
  cases hnothing : s.matchesNothing with
  | false =>
    have hread := read_text (isWellFormed_statement hnothing aspect)
    rw [ofText?, hread]
    exact ofStatement?_statement s aspect
  | true =>
    -- what follows the empty relation is a statement without it
    let rest : Statement := { s.statement aspect with common := none }
    have hpins : s.pins = some [] := beq_iff_eq.1 hnothing
    have htokens : tokens (s.statement aspect).text = noPairs ++ tokens rest.text := by
      have hcommon : (s.statement aspect).common = some (pairs []) := by
        rw [statement, hpins]
        rfl
      have hnone : tokens (commonText rest.common) = [] := rfl
      rw [tokens_statement, tokens_statement rest, hcommon, hnone, commonText, tokens_pairs_nil,
        List.nil_append]
    have hread : read (s.statement aspect).text = none := by
      rw [Sql.read, htokens, readStatement_noPairs]
    have hrest : readStatement (tokens rest.text) = some (rest, []) :=
      read_eq_some_iff.1 (read_text (s.isWellFormed_withoutPairs aspect))
    have hof : ofStatement? rest = some ({ s with pins := none }, aspect) :=
      ofStatement?_statement { s with pins := none } aspect
    rw [ofText?, hread]
    simp only [htokens, skip_append, Option.bind_some, hrest, hof, Option.map_some]
    rw [← hpins]

/-- Two texts are the same only if the same is asked about the same selection. -/
theorem text_eq_iff {s s' : Selection} {aspect aspect' : Aspect} :
    (s.statement aspect).text = (s'.statement aspect').text ↔ s = s' ∧ aspect = aspect' := by
  constructor
  · intro htext
    have hread := ofText?_text s aspect
    rw [htext, ofText?_text] at hread
    cases hread
    exact ⟨rfl, rfl⟩
  · rintro ⟨rfl, rfl⟩
    rfl

/-- **A text determines what is selected.** Whatever restrictions two selections come from, the
requested pins, the issue and the aspect are read back from the text, and so the two have one text
exactly if they agree in all three: in what is asked, in the list of requested pins or in that none
were requested, and in the issue or in that none was named. -/
theorem text_determines_selection (chain chain' : List Restriction) (aspect aspect' : Aspect) :
    ofText? ((ofChain chain).statement aspect).text = some (ofChain chain, aspect)
      ∧ (((ofChain chain).statement aspect).text = ((ofChain chain').statement aspect').text
        ↔ aspect = aspect' ∧ (ofChain chain).pins = (ofChain chain').pins
          ∧ (ofChain chain).issueId = (ofChain chain').issueId) := by
  refine ⟨ofText?_text _ aspect, text_eq_iff.trans ?_⟩
  generalize ofChain chain = s
  generalize ofChain chain' = s'
  constructor
  · rintro ⟨rfl, rfl⟩
    exact ⟨rfl, rfl, rfl⟩
  · rintro ⟨rfl, hpins, hissue⟩
    obtain ⟨pins, issueId⟩ := s
    obtain ⟨pins', issueId'⟩ := s'
    cases hpins
    cases hissue
    exact ⟨rfl, rfl⟩

end Selection

end DesignHistory
