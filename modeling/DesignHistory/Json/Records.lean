import DesignHistory.Instant.Rfc3339
import DesignHistory.Json
import DesignHistory.Lifecycle
import DesignHistory.PinnedDesign
import DesignHistory.Store

/-!
# Records as JSON

How every record is written as a JSON value and read back.  A record is an object
with one member per field; members of other names are ignored when it is read.

## Main definitions

* `Json.ReadError`: the value has not the right shape, or a text in it is no pin.
* `Json.field`, `Json.optionalField`, `Json.listField`: reading one member.
* `X.toJson`, `X.ofJson` for every record `X`.

An absent optional field is written as `null` and may be left out when reading.
The two lists of a filter are left out when they are empty, and may not be `null`.
-/

namespace DesignHistory

namespace Json

/-- Why a value is not the record that was wanted.  A pin that is spelled wrongly keeps its own
error, which has the text in it; every other misfit is one and the same. -/
inductive ReadError where
  | shape
  | malformedPin (m : Pin.Malformed)
deriving DecidableEq, Repr

/-- The result of reading a value. -/
abbrev Read (α : Type) := Except ReadError α

/-- A value that may be missing because of its shape. -/
def need {α : Type} : Option α → Read α
  | some a => .ok a
  | none => .error .shape

/-- A signed 64-bit number. -/
def readInt64 (j : Json) : Read Int64 :=
  match j with
  | .int n => if Decimal.fitsInt64 n then .ok (Int64.ofInt n) else .error .shape
  | _ => .error .shape

/-- A text. -/
def readText (j : Json) : Read String := need j.asText?

/-- A list of values of one kind. -/
def readList {α : Type} (read : Json → Read α) (j : Json) : Read (List α) := do
  (← need j.asArray?).mapM read

/-- A member that has to be there. -/
def field {α : Type} (name : String) (read : Json → Read α) (j : Json) : Read α := do
  read (← need (j.get? name))

/-- A member that may be left out or be `null`.  Both mean the same on reading; on writing an absent
value is always spelled out as `null`. -/
def optionalField {α : Type} (name : String) (read : Json → Read α) (j : Json) :
    Read (Option α) :=
  match j.get? name with
  | none | some .null => .ok none
  | some value => (read value).map some

/-- A list that may be left out when it is empty.  A `null` in its place is not a list, and is
refused. -/
def listField {α : Type} (name : String) (read : Json → Read α) (j : Json) : Read (List α) :=
  match j.get? name with
  | none => .ok []
  | some value => readList read value

/-- The value, if it is an object. -/
def readObject (j : Json) : Read Json := do
  let _ ← need j.asObject?
  return j

/-- A signed 64-bit number as a value. -/
def ofInt64 (n : Int64) : Json := .int n.toInt

/-- An optional value, `null` for an absent one. -/
def ofOption {α : Type} (write : α → Json) : Option α → Json
  | some a => write a
  | none => .null

/-- The member for a list, left out when it is empty. -/
def listMember {α : Type} (name : String) (write : α → Json) : List α → List (String × Json)
  | [] => []
  | l => [(name, .array (l.map write))]

end Json

open Json (Read need field optionalField listField)

/-! ### Issues and designs -/

/-- An issue as a value. -/
def Issue.toJson (i : Issue) : Json :=
  .object [("id", .ofInt64 i.id), ("project_id", .ofInt64 i.projectId), ("iid", .ofInt64 i.iid),
    ("title", .text i.title)]

/-- The issue that a value denotes. -/
def Issue.ofJson (j : Json) : Read Issue := do
  return {
    id := ← field "id" Json.readInt64 j
    projectId := ← field "project_id" Json.readInt64 j
    iid := ← field "iid" Json.readInt64 j
    title := ← field "title" Json.readText j }

/-- A design as a value. -/
def Design.toJson (d : Design) : Json :=
  .object [("id", .ofInt64 d.id), ("project_id", .ofInt64 d.projectId),
    ("issue_id", .ofInt64 d.issueId), ("filename", .text d.filename)]

/-- The design that a value denotes. -/
def Design.ofJson (j : Json) : Read Design := do
  return {
    id := ← field "id" Json.readInt64 j
    projectId := ← field "project_id" Json.readInt64 j
    issueId := ← field "issue_id" Json.readInt64 j
    filename := ← field "filename" Json.readText j }

/-! ### Events, actions and stages -/

/-- The name of an event. -/
def Event.name : Event → String
  | .creation => "creation"
  | .modification => "modification"
  | .deletion => "deletion"

/-- The event of a name. -/
def Event.ofName? (s : String) : Option Event :=
  if s = "creation" then some .creation
  else if s = "modification" then some .modification
  else if s = "deletion" then some .deletion
  else none

/-- An event as a value. -/
def Event.toJson (e : Event) : Json := .text e.name

/-- The event that a value denotes. -/
def Event.ofJson (j : Json) : Read Event := do
  need (Event.ofName? (← Json.readText j))

/-- An action as a value. -/
def Action.toJson (a : Action) : Json :=
  .object [("design_id", .ofInt64 a.designId), ("version_id", .ofInt64 a.versionId),
    ("event", a.event.toJson)]

/-- The action that a value denotes. -/
def Action.ofJson (j : Json) : Read Action := do
  return {
    designId := ← field "design_id" Json.readInt64 j
    versionId := ← field "version_id" Json.readInt64 j
    event := ← field "event" Event.ofJson j }

/-- The name of a stage. -/
def Lifecycle.name : Lifecycle → String
  | .notYetCreated => "not-yet-created"
  | .visible => "visible"
  | .deleted => "deleted"

/-- The stage of a name. -/
def Lifecycle.ofName? (s : String) : Option Lifecycle :=
  if s = "not-yet-created" then some .notYetCreated
  else if s = "visible" then some .visible
  else if s = "deleted" then some .deleted
  else none

/-- A stage as a value. -/
def Lifecycle.toJson (l : Lifecycle) : Json := .text l.name

/-- The stage that a value denotes. -/
def Lifecycle.ofJson (j : Json) : Read Lifecycle := do
  need (Lifecycle.ofName? (← Json.readText j))

/-! ### Versions -/

/-- An instant as a value. -/
def Instant.toJson (t : Instant) : Json := .text t.toRfc3339

/-- The instant that a value denotes. -/
def Instant.ofJson (j : Json) : Read Instant := do
  need (Instant.ofRfc3339? (← Json.readText j))

/-- A version as a value. -/
def Version.toJson (v : Version) : Json :=
  .object [("id", .ofInt64 v.id), ("issue_id", .ofInt64 v.issueId), ("sha", .text v.sha),
    ("author_id", Json.ofOption Json.ofInt64 v.authorId), ("created_at", v.createdAt.toJson)]

/-- The version that a value denotes. -/
def Version.ofJson (j : Json) : Read Version := do
  return {
    id := ← field "id" Json.readInt64 j
    issueId := ← field "issue_id" Json.readInt64 j
    sha := ← field "sha" Json.readText j
    authorId := ← optionalField "author_id" Json.readInt64 j
    createdAt := ← field "created_at" Instant.ofJson j }

/-! ### Pins and pinned designs -/

/-- A pin as a value, its text form. -/
def Pin.toJson (p : Pin) : Json := .text p.encode

/-- The pin that a value denotes.  The text is decoded by the codec of identities, so that a text
which is no identity is refused with the same error as everywhere else. -/
def Pin.ofJson (j : Json) : Read Pin := do
  (Pin.decode (← Json.readText j)).mapError .malformedPin

/-- **A pinned design as a value, with its pin.** The name is written from what the record stores
and not worked out again from its parts; there is no reading of the whole record, since it is output
only. -/
def PinnedDesign.toJson (p : PinnedDesign) : Json :=
  .object [("id", p.pin.toJson), ("design", p.design.toJson), ("version", p.version.toJson)]

/-! ### Filters, lookups and references -/

/-- A filter as a value. -/
def DesignFilter.toJson (f : DesignFilter) : Json :=
  .object (Json.listMember "ids" Json.ofInt64 f.ids
    ++ Json.listMember "filenames" Json.text f.filenames)

/-- The filter that a value denotes. -/
def DesignFilter.ofJson (j : Json) : Read DesignFilter := do
  let j ← Json.readObject j
  return {
    ids := ← listField "ids" Json.readInt64 j
    filenames := ← listField "filenames" Json.readText j }

/-- A design lookup as a value. -/
def DesignLookup.toJson (l : DesignLookup) : Json :=
  .object [("id", Json.ofOption Json.ofInt64 l.id),
    ("filename", Json.ofOption Json.text l.filename)]

/-- The design lookup that a value denotes.  Neither the number of keys nor their agreement is
checked here: a lookup without a key, or with both, is a value, and asking with it is the error. -/
def DesignLookup.ofJson (j : Json) : Read DesignLookup := do
  let j ← Json.readObject j
  return {
    id := ← optionalField "id" Json.readInt64 j
    filename := ← optionalField "filename" Json.readText j }

/-- A pin lookup as a value. -/
def PinLookup.toJson (l : PinLookup) : Json :=
  .object [("id", Json.ofOption Json.text l.id),
    ("design_id", Json.ofOption Json.ofInt64 l.designId),
    ("filename", Json.ofOption Json.text l.filename)]

/-- The pin lookup that a value denotes. -/
def PinLookup.ofJson (j : Json) : Read PinLookup := do
  let j ← Json.readObject j
  return {
    id := ← optionalField "id" Json.readText j
    designId := ← optionalField "design_id" Json.readInt64 j
    filename := ← optionalField "filename" Json.readText j }

/-- A reference as a value. -/
def DesignReference.toJson (r : DesignReference) : Json :=
  .object [("issue_id", .ofInt64 r.issueId), ("filename", .text r.filename)]

/-- The reference that a value denotes. -/
def DesignReference.ofJson (j : Json) : Read DesignReference := do
  return {
    issueId := ← field "issue_id" Json.readInt64 j
    filename := ← field "filename" Json.readText j }

end DesignHistory
