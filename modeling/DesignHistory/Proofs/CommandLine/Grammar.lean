import DesignHistory.Proofs.CommandLine.Arguments
import DesignHistory.Proofs.Text.Decimal

/-!
# The grammar of arguments

Reading goes through the arguments from the left, one or two at a time, and stops at the first
that it cannot use.  The grammar says the same without an order of reading: arguments are items
one after the other, in one way at most, and those that are none begin with items and go on with
an offence, which is the reason they are refused.

## Main definitions

* `Arguments.Offends`: arguments that begin with an offence, and the error for it.

## Main statements

* `Arguments.Spells.unique`: arguments spell their items in one way.
* `Arguments.parse_eq_error_iff`: the arguments that are refused, and why.
* `Arguments.parse_decides_grammar`: reading decides the grammar.
-/

namespace DesignHistory.Arguments

/-- Whether an item is written can be read off it. -/
instance : (item : Item) → Decidable item.IsWritten
  | .issue value id => inferInstanceAs (Decidable (Decimal.readInt64 value = .ok id))
  | .identity text =>
    inferInstanceAs (Decidable (text ≠ "--issue" ∧ text ≠ "-h" ∧ text ≠ "--help"))

/-! ### One decomposition -/

/-- **Arguments spell their items in one way.** The first word decides what kind of item it begins,
and the value of an issue option denotes one number. -/
theorem Spells.unique {arguments : List String} {items items' : List Item}
    (h : Spells arguments items) (h' : Spells arguments items') : items = items' := by
  induction items generalizing arguments items' with
  | nil =>
    cases items' with
    | nil => rfl
    | cons item' rest' =>
      obtain ⟨others, hwords, -⟩ := spells_cons_iff.1 h'
      obtain rfl := h.words
      cases item' <;> cases hwords
  | cons item rest ih =>
    obtain ⟨others, rfl, hitem, hrest⟩ := spells_cons_iff.1 h
    cases items' with
    | nil =>
      have hwords := h'.words
      cases item <;> cases hwords
    | cons item' rest' =>
      obtain ⟨others', hwords, hitem', hrest'⟩ := spells_cons_iff.1 h'
      -- the first argument tells which kind of item it belongs to
      cases item with
      | issue value id =>
        cases item' with
        | issue value' id' =>
          obtain ⟨rfl, rfl⟩ : value = value' ∧ others = others' := by
            simpa [Item.words] using hwords
          have hvalue : Decimal.readInt64 value = .ok id := hitem
          have hvalue' : Decimal.readInt64 value = .ok id' := hitem'
          obtain rfl := Except.ok.inj (hvalue.symm.trans hvalue')
          rw [ih hrest hrest']
        | identity text =>
          have htext : "--issue" = text := (List.cons.inj hwords).1
          exact absurd htext.symm hitem'.1
      | identity text =>
        cases item' with
        | issue value id =>
          have htext : text = "--issue" := (List.cons.inj hwords).1
          exact absurd htext hitem.1
        | identity text' =>
          obtain ⟨rfl, hothers⟩ := List.cons.inj hwords
          obtain rfl : others = others' := hothers
          rw [ih hrest hrest']

/-! ### Offences -/

/-- Arguments begin with what is no item, for the reason that is reported.  The three shapes exclude
each other and the items, so that at any place there is an item or one offence. -/
inductive Offends : List String → ArgumentError → Prop where
  /-- The issue option is the last argument. -/
  | missingValue : Offends ["--issue"] .missingValue
  /-- The value of the issue option is no number. -/
  | invalidIssueId {value : String} {error : Decimal.ReadError} (rest : List String)
      (h : Decimal.readInt64 value = .error error) :
      Offends ("--issue" :: value :: rest) (.invalidIssueId value error)
  /-- Help is asked for. -/
  | helpWanted {flag : String} (rest : List String) (h : flag = "-h" ∨ flag = "--help") :
      Offends (flag :: rest) .helpWanted

/-- An offence is reported as soon as reading comes to it. -/
theorem Offends.read_eq {rest : List String} {e : ArgumentError} (h : Offends rest e)
    (sofar : Arguments) : read sofar rest = .error e := by
  cases h with
  | missingValue => rfl
  | invalidIssueId rest h => rw [read, h]
  | helpWanted rest h =>
    rcases h with rfl | rfl <;> rfl

/-- Arguments that are not read to the end have items, which may be none, and an offence after
them. -/
theorem exists_of_read_eq_error {sofar : Arguments} {arguments : List String} {e : ArgumentError}
    (h : read sofar arguments = .error e) :
    ∃ before items rest, arguments = before ++ rest ∧ Spells before items ∧ Offends rest e := by
  fun_induction read sofar arguments with
  | case1 sofar => cases h
  | case2 sofar value rest issueId hvalue ih =>
    obtain ⟨before, items, offence, rfl, hspells, hoffends⟩ := ih h
    exact ⟨"--issue" :: value :: before, .issue value issueId :: items, offence, rfl,
      spells_cons_iff.2 ⟨before, rfl, hvalue, hspells⟩, hoffends⟩
  | case3 sofar value rest error hvalue =>
    obtain rfl := Except.error.inj h
    exact ⟨[], [], _, rfl, spells_nil, .invalidIssueId rest hvalue⟩
  | case4 sofar =>
    obtain rfl := Except.error.inj h
    exact ⟨[], [], _, rfl, spells_nil, .missingValue⟩
  | case5 sofar flag rest hvalue hend hoption =>
    obtain rfl := Except.error.inj h
    exact ⟨[], [], _, rfl, spells_nil, .helpWanted rest hoption⟩
  | case6 sofar arg rest hvalue hend hoption ih =>
    obtain ⟨before, items, offence, rfl, hspells, hoffends⟩ := ih h
    have hissue : arg ≠ "--issue" := by
      rintro rfl
      cases hafter : before ++ offence with
      | nil => exact hend rfl hafter
      | cons value others => exact hvalue value others rfl hafter
    exact ⟨arg :: before, .identity arg :: items, offence, rfl,
      spells_cons_iff.2 ⟨before, rfl, ⟨hissue, not_or.1 hoption⟩, hspells⟩, hoffends⟩

/-- Arguments are refused for the first offence from the left, or because they are items without an
identity among them.  What stands behind the offence is arbitrary, and may offend as well. -/
theorem parse_eq_error_iff {arguments : List String} {e : ArgumentError} :
    parse arguments = .error e
      ↔ (∃ before items rest, arguments = before ++ rest ∧ Spells before items ∧ Offends rest e)
        ∨ e = .noIdentities
          ∧ ∃ items, Spells arguments items ∧ (ofItems items).identities = [] := by
  rw [parse_eq_bind]
  constructor
  · intro h
    cases hread : read ⟨none, []⟩ arguments with
    | error e' =>
      rw [hread] at h
      obtain rfl : e' = e := Except.error.inj h
      exact .inl (exists_of_read_eq_error hread)
    | ok parsed =>
      obtain ⟨items, hspells, rfl⟩ := read_eq_ok_iff.1 hread
      rw [hread, Except.bind] at h
      split at h
      · rename_i hidentities
        exact .inr ⟨(Except.error.inj h).symm, items, hspells, hidentities⟩
      · cases h
  · rintro (⟨before, items, rest, rfl, hspells, hoffends⟩ | ⟨rfl, items, hspells, hidentities⟩)
    · rw [read_append_of_spells hspells, hoffends.read_eq]
      rfl
    · rw [read_eq_ok_iff.2 ⟨items, hspells, rfl⟩, Except.bind, if_pos hidentities]

/-! ### The grammar -/

/-- **Reading arguments decides their grammar.** They are read exactly if they spell items with an
identity among them, in one way only, and then what is asked for are the identities in their order
and the last issue.  Otherwise the first offence from the left is the error, and only where nothing
offends it is that there is no identity.  The value of an issue option is a signed decimal in the
range of 64-bit numbers. -/
theorem parse_decides_grammar (arguments : List String) :
    (∀ parsed, parse arguments = .ok parsed
        ↔ ∃ items, Spells arguments items ∧ ofItems items = parsed ∧ parsed.identities ≠ [])
      ∧ (∀ items items', Spells arguments items → Spells arguments items' → items = items')
      ∧ (∀ e, parse arguments = .error e
        ↔ (∃ before items rest, arguments = before ++ rest ∧ Spells before items ∧ Offends rest e)
          ∨ e = .noIdentities
            ∧ ∃ items, Spells arguments items ∧ (ofItems items).identities = [])
      ∧ ∀ value id, (Item.issue value id).IsWritten ↔ Decimal.Denotes value id.toInt :=
  ⟨fun _ => parse_eq_ok_iff, fun _ _ h h' => h.unique h', fun _ => parse_eq_error_iff,
    fun _ _ => Decimal.readInt64_eq_ok_iff⟩

/-- An issue is named twice, and a help flag stands where a value is wanted. -/
theorem parse_decides_grammar_of_repeated :
    parse ["--issue", "+07", "1.2", "--issue", "-3", "x"] = .ok ⟨some (-3), ["1.2", "x"]⟩
      ∧ parse ["1.2", "--issue", "-h", "--help"]
        = .error (.invalidIssueId "-h" .invalidDigit) := by
  have hread := (parse_decides_grammar ["--issue", "+07", "1.2", "--issue", "-3", "x"]).1
  have hrefused := (parse_decides_grammar ["1.2", "--issue", "-h", "--help"]).2.2.1
  refine ⟨(hread _).2 ⟨[.issue "+07" 7, .identity "1.2", .issue "-3" (-3), .identity "x"],
    ⟨rfl, by decide⟩, rfl, by decide⟩, (hrefused _).2 (.inl ⟨["1.2"], [.identity "1.2"],
      ["--issue", "-h", "--help"], rfl, ⟨rfl, by decide⟩, .invalidIssueId _ (by decide)⟩)⟩

end DesignHistory.Arguments
