import DesignHistory.Design

/-!
# Lookups and filters

Ways to say which designs are meant.  A lookup has several optional keys of
which exactly one must be given; a filter narrows a list of designs and an empty
list of it restricts nothing.

## Main definitions

* `DesignFilter`, `DesignFilter.accepts`: by ids, by filenames, or by both.
* `DesignLookup.key`: one design of an issue, by id or by filename.
* `PinLookup.key`: one design as of a version, by its pin as well.
* `LookupError`: too many keys, or none, with the messages.
-/

namespace DesignHistory

/-- Restricts a list of designs by ids and by filenames.  An empty list is no restriction, so that
the filter without any list accepts every design. -/
structure DesignFilter where
  ids : List DesignId := []
  filenames : List String := []
deriving DecidableEq, Repr

namespace DesignFilter

/-- The filter that accepts one id. -/
def byId (id : DesignId) : DesignFilter := ⟨[id], []⟩

/-- The filter that accepts one filename. -/
def byFilename (filename : String) : DesignFilter := ⟨[], [filename]⟩

/-- Whether a design passes both restrictions. -/
def accepts (f : DesignFilter) (id : DesignId) (filename : String) : Bool :=
  (f.ids.isEmpty || f.ids.contains id) && (f.filenames.isEmpty || f.filenames.contains filename)

@[simp]
theorem accepts_byId (id id' : DesignId) (filename : String) :
    (byId id).accepts id' filename = (id' == id) := by
  rw [Bool.eq_iff_iff]
  simp [byId, accepts]

@[simp]
theorem accepts_byFilename (filename filename' : String) (id : DesignId) :
    (byFilename filename).accepts id filename' = (filename' == filename) := by
  rw [Bool.eq_iff_iff]
  simp [byFilename, accepts]

end DesignFilter

/-- Why a lookup has no key.  Exactly one has to be given; none and several are told apart in the
message. -/
inductive LookupError where
  | tooManyKeys
  | noKey
deriving DecidableEq, Repr

/-- The wording of a lookup error. -/
def LookupError.message : LookupError → String
  | .tooManyKeys => "only one of id or filename may be provided"
  | .noKey => "one of id or filename must be passed"

/-- What tells a design from the others of its issue, as far as it does: ids are unique, and
filenames need not be. -/
inductive DesignKey where
  | ofId (id : DesignId)
  | ofFilename (filename : String)
deriving DecidableEq, Repr

/-- The filter that accepts what a key means. -/
def DesignKey.filter : DesignKey → DesignFilter
  | .ofId id => .byId id
  | .ofFilename filename => .byFilename filename

/-- Asks for one design of an issue.  As it is written, each of the two keys may be there or not;
`DesignLookup.key` says which of these lookups mean something. -/
structure DesignLookup where
  id : Option DesignId := none
  filename : Option String := none
deriving DecidableEq, Repr

/-- The only key of a lookup, or why there is none.  It is found without the store, so that a lookup
that means nothing costs no query. -/
def DesignLookup.key (l : DesignLookup) : Except LookupError DesignKey :=
  match l.id, l.filename with
  | some _, some _ => .error .tooManyKeys
  | some id, none => .ok (.ofId id)
  | none, some filename => .ok (.ofFilename filename)
  | none, none => .error .noKey

/-- What tells a design as of a version from the others. -/
inductive PinKey where
  | identity (identity : String)
  | design (key : DesignKey)
deriving DecidableEq, Repr

/-- Asks for one design as of a version, by the identity of the pair or by a key of the design. -/
structure PinLookup where
  id : Option String := none
  designId : Option DesignId := none
  filename : Option String := none
deriving DecidableEq, Repr

/-- The only key of a lookup, or why there is none, as for a design lookup.  A text that is given as
the identity need not be a pin for that. -/
def PinLookup.key (l : PinLookup) : Except LookupError PinKey :=
  match l.id, l.designId, l.filename with
  | none, none, none => .error .noKey
  | some identity, none, none => .ok (.identity identity)
  | none, some id, none => .ok (.design (.ofId id))
  | none, none, some filename => .ok (.design (.ofFilename filename))
  | _, _, _ => .error .tooManyKeys

end DesignHistory
