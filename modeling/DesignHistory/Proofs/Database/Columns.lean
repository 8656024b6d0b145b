import Mathlib.Data.List.Forall2
import Mathlib.Data.List.TakeWhile
import DesignHistory.Database.Client
import DesignHistory.Sql.Meaning

/-!
# The two halves of joined rows

A joined row has the columns of a design and of a version one after the other, and two names occur
in both.  The columns are cut where the second `id` stands, and a field is looked up in its half
alone.  So the halves are not mixed, in whatever order their columns come and whatever other
columns stand among them.

## Main definitions

* `Database.ColumnSplit.Cuts`: what a cut of columns says about their positions.
* `Database.IsHalf`, `Database.Fits`: the columns of one half, and cells with the expected values.
* `Database.Shows`: the pair that a joined row shows.
* `Database.pinnedOrMismatch`: what pairs make.

## Main statements

* `Database.lastIndex?_eq_some_iff`: the last position of a name.
* `Database.ColumnSplit.locate?_eq_some_iff`, `Database.ColumnSplit.locate?_eq_none_iff`: where
  columns are cut.
* `Database.readJoined_of_shows`: joined rows are read as the pairs that they show.
* `Database.joined_rows_split`: columns are cut without mixing the halves.
-/

namespace DesignHistory.Database

open Sql

/-! ### Positions of names -/

/-- A name has no last position exactly if it does not occur. -/
theorem lastIndex?_eq_none_iff {name : String} {names : List String} :
    lastIndex? name names = none ↔ name ∉ names := by
  induction names with
  | nil => simp [lastIndex?]
  | cons n rest ih =>
    rw [lastIndex?, List.mem_cons, not_or, ← ih, eq_comm (a := name)]
    cases lastIndex? name rest with
    | none => simp
    | some k => simp

/-- What holds behind a position holds behind the position before it once a name is left off. -/
theorem forall_getElem?_cons_iff {p : Option String → Prop} {n : String} {names : List String}
    {i : Nat} : (∀ j, i < j → p (n :: names)[j]?) ↔ ∀ j, i ≤ j → p names[j]? := by
  constructor
  · intro h j hj
    exact h (j + 1) (by omega)
  · intro h j hj
    cases j with
    | zero => omega
    | succ j => exact h j (by omega)

/-- The last position of a name is one at which the name stands and after which it does not stand
again.  It matters where a half has a name twice, since then the later column is read. -/
theorem lastIndex?_eq_some_iff {name : String} {names : List String} {i : Nat} :
    lastIndex? name names = some i
      ↔ names[i]? = some name ∧ ∀ j, i < j → names[j]? ≠ some name := by
  induction names generalizing i with
  | nil => simp [lastIndex?]
  | cons n rest ih =>
    rw [forall_getElem?_cons_iff (p := (· ≠ some name))]
    cases i with
    | zero =>
      have hstep : lastIndex? name (n :: rest) = some 0 ↔ n = name ∧ name ∉ rest := by
        rw [lastIndex?, ← lastIndex?_eq_none_iff]
        cases lastIndex? name rest <;> simp
      rw [hstep, List.getElem?_cons_zero, Option.some.injEq, List.mem_iff_getElem?]
      simp
    | succ i =>
      have hstep : lastIndex? name (n :: rest) = some (i + 1) ↔ lastIndex? name rest = some i := by
        rw [lastIndex?]
        cases lastIndex? name rest with
        | none => by_cases hn : n = name <;> simp [hn]
        | some k => simp
      rw [hstep, ih, List.getElem?_cons_succ]
      rfl

/-- A name that stands once is found where it stands. -/
theorem lastIndex?_of_count_eq_one {name : String} {names : List String} {i : Nat}
    (hcount : names.count name = 1) (hi : names[i]? = some name) :
    lastIndex? name names = some i := by
  rw [lastIndex?_eq_some_iff]
  refine ⟨hi, fun j hij hj => ?_⟩
  have hsplit : names.count name = (names.take (i + 1)).count name
      + (names.drop (i + 1)).count name := by
    rw [← List.count_append, List.take_append_drop]
  have hbefore : name ∈ names.take (i + 1) :=
    List.mem_iff_getElem?.2 ⟨i, by rw [List.getElem?_take_of_lt (Nat.lt_succ_self i), hi]⟩
  have hafter : name ∈ names.drop (i + 1) :=
    List.mem_iff_getElem?.2 ⟨j - (i + 1), by rw [List.getElem?_drop, ← hj]; congr 1; omega⟩
  have := List.count_pos_iff.2 hbefore
  have := List.count_pos_iff.2 hafter
  omega

namespace ColumnSplit

/-- Columns are cut where the first `id` stands that is not in front.  What stands in front may be
an `id` or not: it belongs to the first half in any case. -/
theorem locate?_eq_some_iff {columns : List String} {split : ColumnSplit} :
    locate? columns = some split
      ↔ columns = split.design ++ split.version ∧ split.design ≠ []
        ∧ split.version.head? = some "id" ∧ "id" ∉ split.design.tail := by
  constructor
  · intro h
    unfold locate? at h
    split at h
    · cases h
    · rename_i first rest
      have hrest := List.takeWhile_append_dropWhile (p := (· != "id")) (l := rest)
      split at h
      · cases h
      · rename_i hdrop
        obtain rfl := Option.some.inj h
        refine ⟨by rw [List.cons_append, hrest], List.cons_ne_nil _ _, ?_, fun hid => ?_⟩
        · have hhead := List.head?_dropWhile_not (· != "id") rest
          cases hversion : rest.dropWhile (· != "id") with
          | nil => exact absurd hversion hdrop
          | cons name others =>
            rw [hversion] at hhead
            simpa using hhead
        · have := List.mem_takeWhile_imp hid
          simp at this
  · obtain ⟨design, version⟩ := split
    rintro ⟨rfl, hne, hversion, hdesign⟩
    obtain ⟨first, others, rfl⟩ := List.exists_cons_of_ne_nil hne
    obtain ⟨rest, rfl⟩ := List.head?_eq_some_iff.1 hversion
    have hothers : ∀ name ∈ others, (name != "id") = true := by
      intro name hname
      rw [bne_iff_ne]
      rintro rfl
      exact hdesign hname
    rw [List.cons_append, locate?, List.takeWhile_append_of_pos hothers,
      List.dropWhile_append_of_pos hothers]
    simp

/-- Columns are not cut exactly if no `id` stands behind the first position. -/
theorem locate?_eq_none_iff {columns : List String} :
    locate? columns = none ↔ ∀ i, 1 ≤ i → columns[i]? ≠ some "id" := by
  cases columns with
  | nil => simp [locate?]
  | cons first rest =>
    have hnone : locate? (first :: rest) = none ↔ rest.dropWhile (· != "id") = [] := by
      rw [locate?]
      split <;> simp_all
    rw [hnone, List.dropWhile_eq_nil_iff]
    have hposition : (∀ i, 1 ≤ i → (first :: rest)[i]? ≠ some "id")
        ↔ ∀ i : Nat, rest[i]? ≠ some "id" :=
      (forall_getElem?_cons_iff (p := (· ≠ some "id")) (i := 0)).trans (by simp)
    simp only [hposition, bne_iff_ne, ne_eq]
    constructor
    · intro h i hi
      exact h "id" (List.mem_of_getElem? hi) rfl
    · rintro h name hname rfl
      obtain ⟨i, hi⟩ := List.mem_iff_getElem?.1 hname
      exact h i hi

/-- What a cut of columns says: it is where the first `id` stands that is not in front, and a column
of a half is the last one of its name in it.  Both halves are searched on their own, so that a name
in the other half is never found instead. -/
structure Cuts (split : ColumnSplit) (columns : List String) : Prop where
  pos : 1 ≤ split.boundary
  starts : columns[split.boundary]? = some "id"
  least : ∀ i, 1 ≤ i → columns[i]? = some "id" → split.boundary ≤ i
  design : ∀ name i, split.designIndex? name = some i
    ↔ i < split.boundary ∧ columns[i]? = some name
      ∧ ∀ j, i < j → j < split.boundary → columns[j]? ≠ some name
  version : ∀ name i, split.versionIndex? name = some i
    ↔ split.boundary ≤ i ∧ columns[i]? = some name ∧ ∀ j, i < j → columns[j]? ≠ some name

/-- A column of the design is the last one of its name in front of the cut. -/
theorem designIndex?_eq_some_iff {split : ColumnSplit} {name : String} {i : Nat} :
    split.designIndex? name = some i
      ↔ i < split.boundary ∧ (split.design ++ split.version)[i]? = some name
        ∧ ∀ j, i < j → j < split.boundary → (split.design ++ split.version)[j]? ≠ some name := by
  have hbefore : ∀ i, i < split.boundary → (split.design ++ split.version)[i]? = split.design[i]? :=
    fun i hi => List.getElem?_append_left hi
  rw [designIndex?, lastIndex?_eq_some_iff]
  constructor
  · rintro ⟨hi, hlast⟩
    have hlt : i < split.boundary := (List.getElem?_eq_some_iff.1 hi).1
    refine ⟨hlt, by rw [hbefore i hlt, hi], fun j hij hj => ?_⟩
    rw [hbefore j hj]
    exact hlast j hij
  · rintro ⟨hlt, hi, hlast⟩
    refine ⟨by rw [← hbefore i hlt, hi], fun j hij hj => ?_⟩
    have hjlt : j < split.boundary := (List.getElem?_eq_some_iff.1 hj).1
    exact hlast j hij hjlt (by rw [hbefore j hjlt, hj])

theorem getElem?_boundary_add (split : ColumnSplit) (i : Nat) :
    (split.design ++ split.version)[split.boundary + i]? = split.version[i]? := by
  rw [boundary, List.getElem?_append_right (Nat.le_add_right _ _), Nat.add_sub_cancel_left]

/-- A column of the version is the last one of its name behind the cut. -/
theorem versionIndex?_eq_some_iff {split : ColumnSplit} {name : String} {i : Nat} :
    split.versionIndex? name = some i
      ↔ split.boundary ≤ i ∧ (split.design ++ split.version)[i]? = some name
        ∧ ∀ j, i < j → (split.design ++ split.version)[j]? ≠ some name := by
  rw [versionIndex?, Option.map_eq_some_iff]
  constructor
  · rintro ⟨k, hk, rfl⟩
    obtain ⟨hk, hlast⟩ := lastIndex?_eq_some_iff.1 hk
    refine ⟨Nat.le_add_right _ _, by rw [getElem?_boundary_add, hk], fun j hkj => ?_⟩
    obtain ⟨m, rfl⟩ := Nat.exists_eq_add_of_le (show split.boundary ≤ j by omega)
    rw [getElem?_boundary_add]
    exact hlast m (by omega)
  · rintro ⟨hle, hi, hlast⟩
    obtain ⟨k, rfl⟩ := Nat.exists_eq_add_of_le hle
    rw [getElem?_boundary_add] at hi
    refine ⟨k, lastIndex?_eq_some_iff.2 ⟨hi, fun j hkj => ?_⟩, rfl⟩
    rw [← getElem?_boundary_add]
    exact hlast _ (by omega)

/-- Columns are cut as they should be. -/
theorem cuts_of_locate? {columns : List String} {split : ColumnSplit}
    (h : locate? columns = some split) : split.Cuts columns := by
  obtain ⟨rfl, hne, hversion, hdesign⟩ := locate?_eq_some_iff.1 h
  refine ⟨List.length_pos_iff.2 hne, ?_, fun i hi hid => ?_, fun _ _ => designIndex?_eq_some_iff,
    fun _ _ => versionIndex?_eq_some_iff⟩
  · have hstart := split.getElem?_boundary_add 0
    rw [Nat.add_zero, ← List.head?_eq_getElem?] at hstart
    exact hstart.trans hversion
  · by_contra hle
    rw [List.getElem?_append_left (Nat.lt_of_not_le hle)] at hid
    obtain ⟨k, rfl⟩ := Nat.exists_eq_add_of_le' hi
    refine hdesign (List.mem_iff_getElem?.2 ⟨k, ?_⟩)
    rw [List.getElem?_tail, hid]

end ColumnSplit

/-! ### Halves -/

/-- What is expected under a column.  The value has to be of this SQL type, and only the author of a
version may be null. -/
inductive ColumnType where
  | bigint
  | bigintOrNull
  | text
  | timestamp
deriving DecidableEq

/-- The cells that may stand in a column. -/
def ColumnType.Admits : ColumnType → Cell → Prop
  | .bigint, cell => ∃ n : Int64, cell = some (.int8 n)
  | .bigintOrNull, cell => ∃ n : Option Int64, cell = n.map .int8
  | .text, cell => ∃ s, cell = some (.text s)
  | .timestamp, cell => ∃ t, cell = some (.timestamptz t)

/-- The columns that belong to a design. -/
def designTypes : List (String × ColumnType) :=
  [("id", .bigint), ("project_id", .bigint), ("issue_id", .bigint), ("filename", .text)]

/-- The columns that belong to a version. -/
def versionTypes : List (String × ColumnType) :=
  [("id", .bigint), ("issue_id", .bigint), ("sha", .text), ("author_id", .bigintOrNull),
    ("created_at", .timestamp)]

/-- One half of the columns of a join: `id` in front, and behind it the other columns of a record,
each once and in any order, with any columns of other names among them.  The condition is on the
names the record needs, and says nothing about the others. -/
structure IsHalf (types : List (String × ColumnType)) (columns : List String) : Prop where
  head : columns.head? = some "id"
  once : ∀ column ∈ types, columns.count column.1 = 1

/-- One half of the cells of a joined row has what is expected under each column of a record.  Cells
under other names may be anything. -/
structure Fits (types : List (String × ColumnType)) (columns : List String) (cells : List Cell) :
    Prop where
  length : cells.length = columns.length
  admits : ∀ column ∈ types, ∀ cell, (column.1, cell) ∈ columns.zip cells → column.2.Admits cell

/-- A name that stands once among columns has a cell under it. -/
theorem Fits.exists_cell {types : List (String × ColumnType)} {columns : List String}
    {cells : List Cell} (hcells : Fits types columns cells) (hcolumns : IsHalf types columns)
    (column : String × ColumnType) (h : column ∈ types) :
    ∃ cell, column.2.Admits cell ∧ (column.1, cell) ∈ columns.zip cells := by
  have hmem : column.1 ∈ columns := by
    rw [← List.count_pos_iff, hcolumns.once column h]
    exact Nat.one_pos
  obtain ⟨i, hi⟩ := List.mem_iff_getElem?.1 hmem
  have hlt : i < cells.length := by
    rw [hcells.length]
    exact (List.getElem?_eq_some_iff.1 hi).1
  have hzip : (column.1, cells[i]) ∈ columns.zip cells := by
    refine List.mem_iff_getElem?.2 ⟨i, List.getElem?_zip_eq_some.2 ⟨hi, ?_⟩⟩
    exact List.getElem?_eq_getElem hlt
  exact ⟨cells[i], hcells.admits column h _ hzip, hzip⟩

/-- A half that has what is expected under the columns of a design shows a design. -/
theorem exists_design_of_fits {columns : List String} {cells : List Cell}
    (hcolumns : IsHalf designTypes columns) (hcells : Fits designTypes columns cells) :
    ∃ d : Design, d.row ⊆ columns.zip cells := by
  have hcell := hcells.exists_cell hcolumns
  obtain ⟨_, ⟨id, rfl⟩, hid⟩ := hcell ("id", .bigint) (by decide)
  obtain ⟨_, ⟨projectId, rfl⟩, hproject⟩ := hcell ("project_id", .bigint) (by decide)
  obtain ⟨_, ⟨issueId, rfl⟩, hissue⟩ := hcell ("issue_id", .bigint) (by decide)
  obtain ⟨_, ⟨filename, rfl⟩, hfilename⟩ := hcell ("filename", .text) (by decide)
  refine ⟨⟨id, projectId, issueId, filename⟩, ?_⟩
  simp [Design.row, hid, hproject, hissue, hfilename]

/-- A half that has what is expected under the columns of a version shows a version. -/
theorem exists_version_of_fits {columns : List String} {cells : List Cell}
    (hcolumns : IsHalf versionTypes columns) (hcells : Fits versionTypes columns cells) :
    ∃ v : Version, v.row ⊆ columns.zip cells := by
  have hcell := hcells.exists_cell hcolumns
  obtain ⟨_, ⟨id, rfl⟩, hid⟩ := hcell ("id", .bigint) (by decide)
  obtain ⟨_, ⟨issueId, rfl⟩, hissue⟩ := hcell ("issue_id", .bigint) (by decide)
  obtain ⟨_, ⟨sha, rfl⟩, hsha⟩ := hcell ("sha", .text) (by decide)
  obtain ⟨_, ⟨authorId, rfl⟩, hauthor⟩ := hcell ("author_id", .bigintOrNull) (by decide)
  obtain ⟨_, ⟨createdAt, rfl⟩, hcreated⟩ := hcell ("created_at", .timestamp) (by decide)
  refine ⟨⟨id, issueId, sha, authorId, createdAt⟩, ?_⟩
  simp [Version.row, hid, hissue, hsha, hauthor, hcreated]

/-! ### Reading halves -/

/-- Each column of a record stands once in a half of its columns. -/
theorem IsHalf.count_eq_one {types : List (String × ColumnType)} {columns : List String}
    (h : IsHalf types columns) (row : Sql.Row) (hnames : row.map Prod.fst = types.map Prod.fst)
    {field : String × Cell} (hfield : field ∈ row) : columns.count field.1 = 1 := by
  have hname : field.1 ∈ types.map Prod.fst := hnames ▸ List.mem_map_of_mem hfield
  obtain ⟨column, hcolumn, hname⟩ := List.mem_map.1 hname
  exact hname ▸ h.once column hcolumn

section Cells

variable {design version : List String} {cells : List Cell} {name : String} {cell : Cell}

/-- A column that stands once in the first half is read from the first half. -/
theorem designCell_eq_ok (hcount : design.count name = 1)
    (h : (name, cell) ∈ design.zip (cells.take design.length)) :
    Row.designCell ⟨design ++ version, cells⟩ ⟨design, version⟩ name = .ok cell := by
  obtain ⟨i, hi⟩ := List.mem_iff_getElem?.1 h
  obtain ⟨hname, hcell⟩ := List.getElem?_zip_eq_some.1 hi
  have hlt : i < design.length := (List.getElem?_eq_some_iff.1 hname).1
  rw [List.getElem?_take_of_lt hlt] at hcell
  have hindex : ColumnSplit.designIndex? ⟨design, version⟩ name = some i :=
    lastIndex?_of_count_eq_one hcount hname
  simp only [Row.designCell, hindex, Row.at, hcell]

/-- A column that stands once in the second half is read from the second half. -/
theorem versionCell_eq_ok (hcount : version.count name = 1)
    (h : (name, cell) ∈ version.zip (cells.drop design.length)) :
    Row.versionCell ⟨design ++ version, cells⟩ ⟨design, version⟩ name = .ok cell := by
  obtain ⟨i, hi⟩ := List.mem_iff_getElem?.1 h
  obtain ⟨hname, hcell⟩ := List.getElem?_zip_eq_some.1 hi
  rw [List.getElem?_drop] at hcell
  have hindex : ColumnSplit.versionIndex? ⟨design, version⟩ name = some (design.length + i) := by
    rw [ColumnSplit.versionIndex?, lastIndex?_of_count_eq_one hcount hname]
    rfl
  simp only [Row.versionCell, hindex, Row.at, hcell]

end Cells

/-- A design is read from cells that are those of its fields. -/
theorem designFrom_eq_ok {cell : String → Read Cell} {d : Design}
    (h : ∀ field ∈ d.row, cell field.1 = .ok field.2) : designFrom cell = .ok d := by
  simp only [Design.row, List.forall_mem_cons] at h
  obtain ⟨hid, hproject, hissue, hfilename, -⟩ := h
  unfold designFrom
  rw [hid, hproject, hissue, hfilename]
  rfl

/-- A version is read from cells that are those of its fields. -/
theorem versionFrom_eq_ok {cell : String → Read Cell} {v : Version}
    (h : ∀ field ∈ v.row, cell field.1 = .ok field.2) : versionFrom cell = .ok v := by
  obtain ⟨id, issueId, sha, authorId, createdAt⟩ := v
  simp only [Version.row, List.forall_mem_cons] at h
  obtain ⟨hid, hissue, hsha, hauthor, hcreated, -⟩ := h
  unfold versionFrom
  rw [hid, hissue, hsha, hauthor, hcreated]
  cases authorId <;> rfl

/-! ### Joined rows -/

/-- The cells of a joined row show a design in their first half and a version in the second.  It
says what the cells are and not how they are read, so that reading can be compared with it. -/
def Shows (design version : List String) (cells : List Cell) (pair : Design × Version) : Prop :=
  pair.1.row ⊆ design.zip (cells.take design.length)
    ∧ pair.2.row ⊆ version.zip (cells.drop design.length)

section Rows

variable {design version : List String} {rows : List (List Cell)}
  {pairs : List (Design × Version)}

/-- The two halves of the columns are found. -/
theorem locate?_of_isHalf (hdesign : IsHalf designTypes design)
    (hversion : IsHalf versionTypes version) :
    ColumnSplit.locate? (design ++ version) = some ⟨design, version⟩ := by
  obtain ⟨others, rfl⟩ := List.head?_eq_some_iff.1 hdesign.head
  refine ColumnSplit.locate?_eq_some_iff.2 ⟨rfl, List.cons_ne_nil _ _, hversion.head, ?_⟩
  have hone : ("id" :: others).count "id" = 1 := hdesign.once ("id", .bigint) (by decide)
  rw [List.count_cons_self] at hone
  show "id" ∉ others
  exact List.count_eq_zero.1 (by omega)

/-- A joined row is read as the pair that it shows, if the two belong together.  Two ids under one
name are no ambiguity, because each half is searched on its own. -/
theorem readPinned_of_shows (hdesign : IsHalf designTypes design)
    (hversion : IsHalf versionTypes version) {cells : List Cell} {pair : Design × Version}
    (h : Shows design version cells pair) :
    readPinned ⟨design, version⟩ ⟨design ++ version, cells⟩
      = (PinnedDesign.ofPair pair.1 pair.2).mapError .mismatch := by
  have hd : designFrom (Row.designCell ⟨design ++ version, cells⟩ ⟨design, version⟩)
      = .ok pair.1 :=
    designFrom_eq_ok fun field hfield =>
      designCell_eq_ok (hdesign.count_eq_one pair.1.row rfl hfield) (h.1 hfield)
  have hv : versionFrom (Row.versionCell ⟨design ++ version, cells⟩ ⟨design, version⟩)
      = .ok pair.2 :=
    versionFrom_eq_ok fun field hfield =>
      versionCell_eq_ok (hversion.count_eq_one pair.2.row rfl hfield) (h.2 hfield)
  unfold readPinned
  rw [hd, hv]
  rfl

/-- Joined rows are read as the pairs that they show, one after the other.  The first row that
cannot be read is the error of the whole. -/
theorem readJoined_of_shows (hdesign : IsHalf designTypes design)
    (hversion : IsHalf versionTypes version) (h : List.Forall₂ (Shows design version) rows pairs) :
    readJoined (design ++ version) rows
      = pairs.mapM fun pair => (PinnedDesign.ofPair pair.1 pair.2).mapError .mismatch := by
  have hall : (rowsOf (design ++ version) rows).mapM (readPinned ⟨design, version⟩)
      = pairs.mapM fun pair => (PinnedDesign.ofPair pair.1 pair.2).mapError .mismatch := by
    induction h with
    | nil => rfl
    | cons hrow _ ih =>
      rw [rowsOf, List.map_cons, List.mapM_cons, List.mapM_cons,
        readPinned_of_shows hdesign hversion hrow]
      rw [rowsOf] at ih
      rw [ih]
  rw [readJoined, locate?_of_isHalf hdesign hversion]
  cases rows with
  | nil =>
    obtain rfl := List.forall₂_nil_left_iff.1 h
    rfl
  | cons row rest => exact hall

theorem result_loadPinned (s : Selection) (columns : List String) (rows : List (List Cell)) :
    ((loadPinned s).perform (.rows columns rows)).result = readJoined columns rows := by
  simp only [loadPinned, Request.perform]
  cases readJoined columns rows <;> rfl

/-- What pairs make: a pinned design each, or the mismatch of the first pair of two issues.  One
such pair is enough for there to be no records at all. -/
def pinnedOrMismatch (pairs : List (Design × Version)) : Read (List PinnedDesign) :=
  match pairs.find? fun pair => pair.1.issueId != pair.2.issueId with
  | none => .ok (pairs.map fun pair => .of pair.1 pair.2)
  | some (d, v) => .error (.mismatch ⟨d.id, d.issueId, v.id, v.issueId⟩)

/-- Pairs that are checked one after the other make pinned designs, up to the first mismatch. -/
theorem mapM_ofPair (pairs : List (Design × Version)) :
    (pairs.mapM fun pair => (PinnedDesign.ofPair pair.1 pair.2).mapError .mismatch)
      = pinnedOrMismatch pairs := by
  induction pairs with
  | nil => rfl
  | cons pair rest ih =>
    obtain ⟨d, v⟩ := pair
    rw [List.mapM_cons, ih]
    unfold PinnedDesign.ofPair pinnedOrMismatch
    by_cases hissue : d.issueId = v.issueId
    · rw [if_pos hissue, List.find?_cons_of_neg (by simpa using hissue)]
      cases rest.find? fun pair => pair.1.issueId != pair.2.issueId <;> rfl
    · rw [if_neg hissue, List.find?_cons_of_pos (by simpa using hissue)]
      rfl

/-- Rows with what is expected under their columns show one pair each. -/
theorem exists_shown (hdesign : IsHalf designTypes design) (hversion : IsHalf versionTypes version)
    (hrows : ∀ cells ∈ rows, Fits designTypes design (cells.take design.length)
      ∧ Fits versionTypes version (cells.drop design.length)) :
    ∃ pairs, List.Forall₂ (Shows design version) rows pairs := by
  induction rows with
  | nil => exact ⟨[], .nil⟩
  | cons cells rest ih =>
    obtain ⟨⟨hd, hv⟩, hrest⟩ := List.forall_mem_cons.1 hrows
    obtain ⟨d, hd⟩ := exists_design_of_fits hdesign hd
    obtain ⟨v, hv⟩ := exists_version_of_fits hversion hv
    obtain ⟨pairs, hpairs⟩ := ih hrest
    exact ⟨(d, v) :: pairs, .cons ⟨hd, hv⟩ hpairs⟩

end Rows

/-- **Joined rows are split where the second half begins.** Columns are cut in two at the first `id`
that is not in front, and each half knows the last column of each name in it.  So when the halves of
the columns are those of a design and of a version, in any order and with any others among them,
every row with the expected values shows one pair, and a request for joined rows gives these pairs
in the order of the rows, or it fails as a whole for the first pair of two issues. -/
theorem joined_rows_split :
    (∀ columns, ColumnSplit.locate? columns = none ↔ ∀ i, 1 ≤ i → columns[i]? ≠ some "id")
      ∧ (∀ columns split, ColumnSplit.locate? columns = some split → split.Cuts columns)
      ∧ ∀ design version, IsHalf designTypes design → IsHalf versionTypes version →
        ∀ rows : List (List Cell),
          (∀ cells ∈ rows, Fits designTypes design (cells.take design.length)
            ∧ Fits versionTypes version (cells.drop design.length)) →
          (∃ pairs, List.Forall₂ (Shows design version) rows pairs)
            ∧ ∀ pairs, List.Forall₂ (Shows design version) rows pairs →
              ∀ s, ((loadPinned s).perform (.rows (design ++ version) rows)).result
                = pinnedOrMismatch pairs := by
  refine ⟨fun _ => ColumnSplit.locate?_eq_none_iff, fun _ _ => ColumnSplit.cuts_of_locate?, ?_⟩
  intro design version hdesign hversion rows hrows
  refine ⟨exists_shown hdesign hversion hrows, fun pairs hpairs s => ?_⟩
  rw [result_loadPinned, readJoined_of_shows hdesign hversion hpairs, mapM_ofPair]

/-- Two rows under columns in an order of their own, with a column of another name in each half
that the other half has too; the second row joins two issues. -/
theorem joined_rows_split_of_shuffled :
    ((loadPinned .all).perform (.rows
      (["id", "filename", "sha", "issue_id", "project_id"]
        ++ ["id", "created_at", "author_id", "project_id", "sha", "issue_id"])
      [[some (.int8 2), some (.text "a"), none, some (.int8 1), some (.int8 7), some (.int8 3),
          some (.timestamptz default), none, some (.int2 0), some (.text "s"), some (.int8 1)],
        [some (.int8 4), some (.text "b"), none, some (.int8 1), some (.int8 7), some (.int8 6),
          some (.timestamptz default), some (.int8 9), none, some (.text "t"), some (.int8 5)]])
      ).result = .error (.mismatch ⟨4, 1, 6, 5⟩) := by
  obtain ⟨-, -, hrows⟩ := joined_rows_split
  refine ((hrows _ _ ⟨rfl, by decide⟩ ⟨rfl, by decide⟩ _ ?_).2
    [(⟨2, 7, 1, "a"⟩, ⟨3, 1, "s", none, default⟩),
      (⟨4, 7, 1, "b"⟩, ⟨6, 5, "t", some 9, default⟩)] ?_ .all).trans rfl
  · simp only [List.forall_mem_cons]
    refine ⟨⟨⟨rfl, ?_⟩, rfl, ?_⟩, ⟨⟨rfl, ?_⟩, rfl, ?_⟩, by simp⟩ <;>
      simp [designTypes, versionTypes, ColumnType.Admits, Option.exists]
  · refine .cons ⟨?_, ?_⟩ (.cons ⟨?_, ?_⟩ .nil) <;> decide

end DesignHistory.Database
