import DesignHistory.CommandLine.Arguments

/-!
# What arguments spell

Arguments are items one after the other: the issue option with its value, or an identity,
which is any argument that is no option.  They are read if and only if they spell such items,
and the items say what is asked for.

## Main definitions

* `Arguments.Item`, `Arguments.Spells`: the items, and the arguments that spell them.
* `Arguments.ofItems`: what items ask for.

## Main statements

* `Arguments.parse_eq_ok_iff`: the arguments that are read, and what they ask for.
-/

namespace DesignHistory.Arguments

/-- What one or two arguments say.  The value of an issue option is kept as it was written beside
what it denotes, since zeros in front and a plus sign are lost in the number. -/
inductive Item where
  /-- The issue option with its value, and the issue that the value denotes. -/
  | issue (value : String) (id : IssueId)
  | identity (text : String)

namespace Item

/-- The arguments of an item. -/
def words : Item → List String
  | issue value _ => ["--issue", value]
  | identity text => [text]

/-- The value of an option denotes its issue, and an identity is no option. -/
def IsWritten : Item → Prop
  | issue value id => Decimal.readInt64 value = .ok id
  | identity text => text ≠ "--issue" ∧ text ≠ "-h" ∧ text ≠ "--help"

/-- The issue that an item names. -/
def issue? : Item → Option IssueId
  | issue _ id => some id
  | identity _ => none

/-- The identity that an item gives. -/
def identity? : Item → Option String
  | issue .. => none
  | identity text => some text

end Item

/-- Arguments are the words of items, one after the other.  The items are of the grammar and not of
the reader: nothing here mentions in which order the reader looks at the words. -/
structure Spells (arguments : List String) (items : List Item) : Prop where
  words : arguments = items.flatMap Item.words
  written : ∀ item ∈ items, item.IsWritten

/-- What is asked for with one item more. -/
def add (sofar : Arguments) : Item → Arguments
  | .issue _ id => { sofar with issueId := some id }
  | .identity text => { sofar with identities := sofar.identities ++ [text] }

/-- What items ask for: the last issue that is named, and all identities.  Where the issue options
stand among the identities makes no difference. -/
def ofItems (items : List Item) : Arguments where
  issueId := (items.filterMap Item.issue?).getLast?
  identities := items.filterMap Item.identity?

/-- What is asked for after several items. -/
theorem foldl_add (sofar : Arguments) (items : List Item) :
    items.foldl add sofar = { issueId := (ofItems items).issueId.or sofar.issueId
                              identities := sofar.identities ++ (ofItems items).identities } := by
  induction items generalizing sofar with
  | nil => simp [ofItems]
  | cons item rest ih =>
    rw [List.foldl_cons, ih]
    cases item with
    | issue value id =>
      simp [ofItems, add, List.filterMap_cons, Item.issue?, Item.identity?, List.getLast?_cons]
    | identity text => simp [ofItems, add, List.filterMap_cons, Item.issue?, Item.identity?]

/-! ### Reading -/

theorem spells_nil : Spells [] [] := ⟨rfl, fun _ h => absurd h List.not_mem_nil⟩

/-- Arguments are spelled by an item and others exactly if they begin with its words. -/
theorem spells_cons_iff {arguments : List String} {item : Item} {items : List Item} :
    Spells arguments (item :: items)
      ↔ ∃ rest, arguments = item.words ++ rest ∧ item.IsWritten ∧ Spells rest items := by
  constructor
  · rintro ⟨hwords, hwritten⟩
    exact ⟨_, hwords, hwritten item List.mem_cons_self, rfl,
      fun other hother => hwritten other (List.mem_cons_of_mem _ hother)⟩
  · rintro ⟨rest, rfl, hitem, rfl, hitems⟩
    exact ⟨rfl, List.forall_mem_cons.2 ⟨hitem, hitems⟩⟩

/-- Arguments that are read spell items.  What was read before stays in front, which is why the
items are added to it and not compared with it. -/
theorem exists_of_read {sofar parsed : Arguments} {arguments : List String}
    (h : read sofar arguments = .ok parsed) :
    ∃ items, Spells arguments items ∧ items.foldl add sofar = parsed := by
  fun_induction read sofar arguments with
  | case1 sofar => exact ⟨[], spells_nil, Except.ok.inj h⟩
  | case2 sofar value rest issueId hvalue ih =>
    obtain ⟨items, hspells, hparsed⟩ := ih h
    exact ⟨.issue value issueId :: items, spells_cons_iff.2 ⟨rest, rfl, hvalue, hspells⟩, hparsed⟩
  | case3 => cases h
  | case4 => cases h
  | case5 => cases h
  | case6 sofar arg rest hvalue hend hoption ih =>
    obtain ⟨items, hspells, hparsed⟩ := ih h
    have hissue : arg ≠ "--issue" := by
      rintro rfl
      cases rest with
      | nil => exact hend rfl rfl
      | cons value rest => exact hvalue value rest rfl rfl
    exact ⟨.identity arg :: items, spells_cons_iff.2
      ⟨rest, rfl, ⟨hissue, not_or.1 hoption⟩, hspells⟩, hparsed⟩

/-- Items that are written are read, and what follows them is read after them.  The rest need not
consist of items: an offence may stand there. -/
theorem read_append_of_spells {arguments : List String} {items : List Item}
    (h : Spells arguments items) (rest : List String) (sofar : Arguments) :
    read sofar (arguments ++ rest) = read (items.foldl add sofar) rest := by
  induction items generalizing arguments sofar with
  | nil =>
    obtain rfl := h.words
    rfl
  | cons item items ih =>
    obtain ⟨others, rfl, hitem, hspells⟩ := spells_cons_iff.1 h
    rw [List.foldl_cons, ← ih hspells, List.append_assoc]
    cases item with
    | issue value id =>
      have hvalue : Decimal.readInt64 value = .ok id := hitem
      show read sofar ("--issue" :: value :: (others ++ rest)) = _
      rw [read, hvalue]
      rfl
    | identity text =>
      obtain ⟨hissue, hoption⟩ := hitem
      show read sofar (text :: (others ++ rest)) = _
      rw [read, if_neg (not_or.2 hoption)]
      · rfl
      · exact fun _ _ h => absurd h hissue
      · exact fun h => absurd h hissue

theorem read_of_spells {arguments : List String} {items : List Item} (h : Spells arguments items)
    (sofar : Arguments) : read sofar arguments = .ok (items.foldl add sofar) := by
  have hread := read_append_of_spells h [] sofar
  rw [List.append_nil] at hread
  exact hread

/-- Arguments are read from the left exactly if they spell items, and then the items say what is
asked for. -/
theorem read_eq_ok_iff {arguments : List String} {parsed : Arguments} :
    read ⟨none, []⟩ arguments = .ok parsed
      ↔ ∃ items, Spells arguments items ∧ ofItems items = parsed := by
  have hfold : ∀ items : List Item, items.foldl add ⟨none, []⟩ = ofItems items := by
    intro items
    rw [foldl_add, Option.or_none, List.nil_append]
  constructor
  · intro h
    obtain ⟨items, hspells, hparsed⟩ := exists_of_read h
    exact ⟨items, hspells, hfold items ▸ hparsed⟩
  · rintro ⟨items, hspells, rfl⟩
    rw [read_of_spells hspells, hfold]

/-- What is asked for is what was read, unless there is no identity in it. -/
theorem parse_eq_bind (arguments : List String) :
    parse arguments = (read ⟨none, []⟩ arguments).bind fun parsed =>
      if parsed.identities = [] then .error .noIdentities else .ok parsed := by
  unfold parse
  cases read ⟨none, []⟩ arguments with
  | error e => rfl
  | ok parsed => simp [Except.bind, List.isEmpty_iff]

/-- **Arguments are read exactly if they spell items**, of which at least one is an identity, and
then the items say what is asked for. -/
theorem parse_eq_ok_iff {arguments : List String} {parsed : Arguments} :
    parse arguments = .ok parsed
      ↔ ∃ items, Spells arguments items ∧ ofItems items = parsed ∧ parsed.identities ≠ [] := by
  have hparse : parse arguments = .ok parsed
      ↔ read ⟨none, []⟩ arguments = .ok parsed ∧ parsed.identities ≠ [] := by
    rw [parse_eq_bind]
    cases read ⟨none, []⟩ arguments with
    | error e => simp [Except.bind]
    | ok args =>
      rw [Except.bind, Except.ok.injEq]
      constructor
      · intro h
        split at h
        · cases h
        · rename_i hidentities
          obtain rfl := Except.ok.inj h
          exact ⟨rfl, hidentities⟩
      · rintro ⟨rfl, hidentities⟩
        rw [if_neg hidentities]
  rw [hparse, read_eq_ok_iff]
  constructor
  · rintro ⟨⟨items, hspells, hitems⟩, hidentities⟩
    exact ⟨items, hspells, hitems, hidentities⟩
  · rintro ⟨items, hspells, hitems, hidentities⟩
    exact ⟨⟨items, hspells, hitems⟩, hidentities⟩

end DesignHistory.Arguments
