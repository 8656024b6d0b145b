import DesignHistory.Json.Records
import DesignHistory.Proofs.Instant.Rfc3339
import DesignHistory.Proofs.Json.Reading
import DesignHistory.Proofs.Pin.Codec

/-!
# Records, written and read

A record is read from the value that it is written as, and from the text of that value.  Reading
one member of an object is described by what the object has under the name; a record reads back as
its members do.

## Main definitions

* `Json.ReadsBack`: a record is read from its value and from the text of its value.

## Main statements

* `Json.ReadsBack.of_readable`: a value that reads back makes a record read back.
* `Json.records_readBack`: every kind of record reads back.
-/

namespace DesignHistory

namespace Json

variable {α : Type}

/-- What is written for a record is read as the record, as a value and as the text of the value.
The second half is what a program sees that gets the text. -/
def ReadsBack (write : α → Json) (read : Json → Read α) (a : α) : Prop :=
  read (write a) = .ok a ∧ (ofText? (render (write a))).map read = some (.ok a)

/-- A record reads back if its value is read, as the value and from the text.  So only the value has
to be looked at for each kind of record. -/
theorem ReadsBack.of_readable {write : α → Json} {read : Json → Read α} {a : α}
    (hread : read (write a) = .ok a) (h : Readable maxDepth (write a)) :
    ReadsBack write read a := by
  refine ⟨hread, ?_⟩
  rw [h.ofText?_render, Option.map_some, hread]

theorem ok_bind {β : Type} (a : α) (f : α → Read β) : (Except.ok a >>= f) = f a := rfl

/-! ### Single values -/

theorem fitsInt64_toInt (n : Int64) : Decimal.fitsInt64 n.toInt = true := by
  have hlow := n.le_toInt
  have hhigh := n.toInt_lt
  have hmax : (Decimal.maxInt64 : Int) = 9223372036854775807 := rfl
  rw [Decimal.fitsInt64, Bool.and_eq_true, decide_eq_true_eq, decide_eq_true_eq]
  omega

theorem readInt64_ofInt64 (n : Int64) : readInt64 (ofInt64 n) = .ok n := by
  simp only [readInt64, ofInt64, if_pos (fitsInt64_toInt n), Int64.ofInt_toInt]

theorem readText_text (s : String) : readText (.text s) = .ok s := rfl

theorem readList_map {write : α → Json} {read : Json → Read α} (h : ∀ a, read (write a) = .ok a)
    (l : List α) : readList read (.array (l.map write)) = .ok l := by
  show (l.map write).mapM read = .ok l
  induction l with
  | nil => rfl
  | cons a l ih =>
    rw [List.map_cons, List.mapM_cons, h, ih]
    rfl

section FromText

variable {depth : Nat}

theorem readable_ofInt64 (n : Int64) : Readable depth (ofInt64 n) :=
  .int _ (by rw [isExact, fitsInt64_toInt, Bool.true_or])

/-- The value of an optional part can be read from text if the value of the part can. -/
theorem readable_ofOption {write : α → Json} (h : ∀ a, Readable depth (write a)) (o : Option α) :
    Readable depth (ofOption write o) := by
  cases o with
  | none => exact .null
  | some a => exact h a

/-- The value of a list can be read from text if the values of its items can. -/
theorem readable_array_map {write : α → Json} (h : ∀ a, Readable depth (write a)) (l : List α) :
    Readable (depth + 1) (.array (l.map write)) := by
  refine .array fun item hitem => ?_
  obtain ⟨a, -, rfl⟩ := List.mem_map.1 hitem
  exact h a

end FromText

/-! ### Members -/

section Members

variable {name : String} {j : Json} {write : α → Json} {read : Json → Read α}

theorem field_eq_ok {a : α} (hmember : j.get? name = some (write a))
    (hread : read (write a) = .ok a) : field name read j = .ok a := by
  rw [field, hmember]
  exact hread

/-- An optional member is read as what was written under its name, if that is `null` for an absent
part alone. -/
theorem optionalField_eq_ok {o : Option α} (hmember : j.get? name = some (ofOption write o))
    (hnull : ∀ a, write a ≠ .null) (hread : ∀ a, read (write a) = .ok a) :
    optionalField name read j = .ok o := by
  unfold optionalField
  rw [hmember]
  cases o with
  | none => rfl
  | some a =>
    rw [ofOption]
    split
    · rename_i heq
      cases heq
    · rename_i heq
      exact absurd (Option.some.inj heq) (hnull a)
    · rename_i heq
      cases heq
      rw [hread]
      rfl

/-- A list is read as what was written under its name, if it was left out when it is empty. -/
theorem listField_eq_ok {l : List α}
    (hmember : j.get? name = if l.isEmpty then none else some (.array (l.map write)))
    (hread : ∀ a, read (write a) = .ok a) : listField name read j = .ok l := by
  unfold listField
  rw [hmember]
  cases l with
  | nil => rfl
  | cons a l => exact readList_map hread (a :: l)

theorem listMember_cases (name : String) (write : α → Json) (l : List α) :
    listMember name write l = [] ∨ listMember name write l = [(name, .array (l.map write))] := by
  cases l with
  | nil => exact .inl rfl
  | cons a l => exact .inr rfl

end Members

end Json

open Json (ok_bind field optionalField listField field_eq_ok optionalField_eq_ok listField_eq_ok
  readInt64_ofInt64 readText_text readable_ofInt64 readable_ofOption readable_array_map Readable
  ReadsBack)

/-! ### Issues and designs -/

/-- An issue is read from its value. -/
theorem Issue.ofJson_toJson (i : Issue) : Issue.ofJson i.toJson = .ok i := by
  have hid : field "id" Json.readInt64 i.toJson = .ok i.id :=
    field_eq_ok rfl (readInt64_ofInt64 i.id)
  have hproject : field "project_id" Json.readInt64 i.toJson = .ok i.projectId :=
    field_eq_ok rfl (readInt64_ofInt64 i.projectId)
  have hiid : field "iid" Json.readInt64 i.toJson = .ok i.iid :=
    field_eq_ok rfl (readInt64_ofInt64 i.iid)
  have htitle : field "title" Json.readText i.toJson = .ok i.title :=
    field_eq_ok rfl (readText_text i.title)
  rw [Issue.ofJson, hid, hproject, hiid, htitle]
  rfl

theorem Issue.readable_toJson (i : Issue) : Readable Json.maxDepth i.toJson := by
  refine .object (by simp) ?_
  simp [readable_ofInt64, Readable.text]

/-- A design is read from its value. -/
theorem Design.ofJson_toJson (d : Design) : Design.ofJson d.toJson = .ok d := by
  have hid : field "id" Json.readInt64 d.toJson = .ok d.id :=
    field_eq_ok rfl (readInt64_ofInt64 d.id)
  have hproject : field "project_id" Json.readInt64 d.toJson = .ok d.projectId :=
    field_eq_ok rfl (readInt64_ofInt64 d.projectId)
  have hissue : field "issue_id" Json.readInt64 d.toJson = .ok d.issueId :=
    field_eq_ok rfl (readInt64_ofInt64 d.issueId)
  have hfilename : field "filename" Json.readText d.toJson = .ok d.filename :=
    field_eq_ok rfl (readText_text d.filename)
  rw [Design.ofJson, hid, hproject, hissue, hfilename]
  rfl

theorem Design.readable_toJson {depth : Nat} (d : Design) : Readable (depth + 1) d.toJson := by
  refine .object (by simp) ?_
  simp [readable_ofInt64, Readable.text]

/-! ### Events, actions and stages -/

theorem Event.ofJson_toJson (e : Event) : Event.ofJson e.toJson = .ok e := by
  cases e <;> rfl

theorem Lifecycle.ofJson_toJson (l : Lifecycle) : Lifecycle.ofJson l.toJson = .ok l := by
  cases l <;> rfl

/-- An action is read from its value. -/
theorem Action.ofJson_toJson (a : Action) : Action.ofJson a.toJson = .ok a := by
  have hdesign : field "design_id" Json.readInt64 a.toJson = .ok a.designId :=
    field_eq_ok rfl (readInt64_ofInt64 a.designId)
  have hversion : field "version_id" Json.readInt64 a.toJson = .ok a.versionId :=
    field_eq_ok rfl (readInt64_ofInt64 a.versionId)
  have hevent : field "event" Event.ofJson a.toJson = .ok a.event :=
    field_eq_ok rfl a.event.ofJson_toJson
  rw [Action.ofJson, hdesign, hversion, hevent]
  rfl

theorem Action.readable_toJson (a : Action) : Readable Json.maxDepth a.toJson := by
  refine .object (by simp) ?_
  simp [readable_ofInt64, Event.toJson, Readable.text]

/-! ### Versions -/

theorem Instant.Regular.ofJson_toJson {t : Instant} (h : t.Regular) :
    Instant.ofJson t.toJson = .ok t := by
  have htext : Json.readText t.toJson = .ok t.toRfc3339 := readText_text _
  rw [Instant.ofJson, htext, ok_bind, h.ofRfc3339?_toRfc3339, Json.need]

/-- A version that was made at a regular instant is read from its value. -/
theorem Version.ofJson_toJson {v : Version} (h : v.createdAt.Regular) :
    Version.ofJson v.toJson = .ok v := by
  have hid : field "id" Json.readInt64 v.toJson = .ok v.id :=
    field_eq_ok rfl (readInt64_ofInt64 v.id)
  have hissue : field "issue_id" Json.readInt64 v.toJson = .ok v.issueId :=
    field_eq_ok rfl (readInt64_ofInt64 v.issueId)
  have hsha : field "sha" Json.readText v.toJson = .ok v.sha :=
    field_eq_ok rfl (readText_text v.sha)
  have hauthor : optionalField "author_id" Json.readInt64 v.toJson = .ok v.authorId :=
    optionalField_eq_ok rfl (fun _ => Json.noConfusion) readInt64_ofInt64
  have hcreated : field "created_at" Instant.ofJson v.toJson = .ok v.createdAt :=
    field_eq_ok rfl h.ofJson_toJson
  rw [Version.ofJson, hid, hissue, hsha, hauthor, hcreated]
  rfl

theorem Version.readable_toJson {depth : Nat} (v : Version) : Readable (depth + 1) v.toJson := by
  refine .object (by simp) ?_
  simp [readable_ofInt64, readable_ofOption readable_ofInt64, Instant.toJson, Readable.text]

/-! ### Pins and pinned designs -/

/-- A pin without negative ids is read from its value. -/
theorem Pin.ofJson_toJson {p : Pin} (hdesign : 0 ≤ p.designId) (hversion : 0 ≤ p.versionId) :
    Pin.ofJson p.toJson = .ok p := by
  show (Pin.decode p.encode).mapError _ = .ok p
  rw [Pin.decode_eq_ok_iff.2 (Pin.read_eq_ok_iff.2 ⟨hdesign, hversion, rfl⟩)]
  rfl

/-- The value of a pinned design can be read from text. -/
theorem PinnedDesign.readable_toJson {depth : Nat} (p : PinnedDesign) :
    Readable (depth + 2) p.toJson := by
  have hpin : Readable (depth + 1) p.pin.toJson := .text _
  refine .object (by simp) ?_
  simp [hpin, p.design.readable_toJson, p.version.readable_toJson]

/-! ### Filters, lookups and references -/

/-- A filter has no member for its ids if it has none. -/
theorem DesignFilter.get?_ids (f : DesignFilter) :
    f.toJson.get? "ids"
      = if f.ids.isEmpty then none else some (.array (f.ids.map Json.ofInt64)) := by
  obtain ⟨ids, filenames⟩ := f
  cases ids <;> cases filenames <;> rfl

/-- A filter has no member for its filenames if it has none. -/
theorem DesignFilter.get?_filenames (f : DesignFilter) :
    f.toJson.get? "filenames"
      = if f.filenames.isEmpty then none else some (.array (f.filenames.map Json.text)) := by
  obtain ⟨ids, filenames⟩ := f
  cases ids <;> cases filenames <;> rfl

/-- A filter is read from its value, the lists that were left out as well. -/
theorem DesignFilter.ofJson_toJson (f : DesignFilter) : DesignFilter.ofJson f.toJson = .ok f := by
  have hobject : Json.readObject f.toJson = .ok f.toJson := rfl
  have hids : listField "ids" Json.readInt64 f.toJson = .ok f.ids :=
    listField_eq_ok f.get?_ids readInt64_ofInt64
  have hfilenames : listField "filenames" Json.readText f.toJson = .ok f.filenames :=
    listField_eq_ok f.get?_filenames readText_text
  rw [DesignFilter.ofJson, hobject, ok_bind, hids, ok_bind, hfilenames]
  rfl

/-- The value of a filter can be read from text. -/
theorem DesignFilter.readable_toJson (f : DesignFilter) : Readable Json.maxDepth f.toJson := by
  have hids : Readable 126 (.array (f.ids.map Json.ofInt64)) :=
    readable_array_map readable_ofInt64 f.ids
  have hfilenames : Readable 126 (.array (f.filenames.map Json.text)) :=
    readable_array_map Readable.text f.filenames
  unfold DesignFilter.toJson
  rcases Json.listMember_cases "ids" Json.ofInt64 f.ids with h | h <;>
    rcases Json.listMember_cases "filenames" Json.text f.filenames with h' | h' <;>
    rw [h, h'] <;> exact .object (by simp) (by simp [hids, hfilenames])

/-- A design lookup is read from its value. -/
theorem DesignLookup.ofJson_toJson (l : DesignLookup) : DesignLookup.ofJson l.toJson = .ok l := by
  have hobject : Json.readObject l.toJson = .ok l.toJson := rfl
  have hid : optionalField "id" Json.readInt64 l.toJson = .ok l.id :=
    optionalField_eq_ok rfl (fun _ => Json.noConfusion) readInt64_ofInt64
  have hfilename : optionalField "filename" Json.readText l.toJson = .ok l.filename :=
    optionalField_eq_ok rfl (fun _ => Json.noConfusion) readText_text
  rw [DesignLookup.ofJson, hobject, ok_bind, hid, ok_bind, hfilename]
  rfl

theorem DesignLookup.readable_toJson (l : DesignLookup) : Readable Json.maxDepth l.toJson := by
  refine .object (by simp) ?_
  simp [readable_ofOption readable_ofInt64, readable_ofOption Readable.text]

/-- A pin lookup is read from its value. -/
theorem PinLookup.ofJson_toJson (l : PinLookup) : PinLookup.ofJson l.toJson = .ok l := by
  have hobject : Json.readObject l.toJson = .ok l.toJson := rfl
  have hid : optionalField "id" Json.readText l.toJson = .ok l.id :=
    optionalField_eq_ok rfl (fun _ => Json.noConfusion) readText_text
  have hdesign : optionalField "design_id" Json.readInt64 l.toJson = .ok l.designId :=
    optionalField_eq_ok rfl (fun _ => Json.noConfusion) readInt64_ofInt64
  have hfilename : optionalField "filename" Json.readText l.toJson = .ok l.filename :=
    optionalField_eq_ok rfl (fun _ => Json.noConfusion) readText_text
  rw [PinLookup.ofJson, hobject, ok_bind, hid, ok_bind, hdesign, ok_bind, hfilename]
  rfl

theorem PinLookup.readable_toJson (l : PinLookup) : Readable Json.maxDepth l.toJson := by
  refine .object (by simp) ?_
  simp [readable_ofOption readable_ofInt64, readable_ofOption Readable.text]

theorem DesignReference.ofJson_toJson (r : DesignReference) :
    DesignReference.ofJson r.toJson = .ok r := by
  have hissue : field "issue_id" Json.readInt64 r.toJson = .ok r.issueId :=
    field_eq_ok rfl (readInt64_ofInt64 r.issueId)
  have hfilename : field "filename" Json.readText r.toJson = .ok r.filename :=
    field_eq_ok rfl (readText_text r.filename)
  rw [DesignReference.ofJson, hissue, hfilename]
  rfl

theorem DesignReference.readable_toJson (r : DesignReference) :
    Readable Json.maxDepth r.toJson := by
  refine .object (by simp) ?_
  simp [readable_ofInt64, Readable.text]

/-! ### Every kind of record -/

namespace Json

/-- **Every kind of record reads back.** A version does if it was made in the years 0 to 9999
outside a leap second; its instant is written with a fraction of 0, 3, 6 or 9 digits and read as it
is, to the nanosecond.  The lists of a filter are left out exactly if they are empty.  A pin reads
back if none of its ids is negative. -/
theorem records_readBack :
    (∀ i : Issue, ReadsBack Issue.toJson Issue.ofJson i)
      ∧ (∀ d : Design, ReadsBack Design.toJson Design.ofJson d)
      ∧ (∀ v : Version, v.createdAt.Regular → ReadsBack Version.toJson Version.ofJson v)
      ∧ (∀ t : Instant, t.Regular →
        t.toRfc3339.length ∈ [20, 24, 27, 30] ∧ Instant.ofRfc3339? t.toRfc3339 = some t)
      ∧ (∀ a : Action, ReadsBack Action.toJson Action.ofJson a)
      ∧ (∀ f : DesignFilter, ReadsBack DesignFilter.toJson DesignFilter.ofJson f
        ∧ (f.toJson.get? "ids" = none ↔ f.ids = [])
        ∧ (f.toJson.get? "filenames" = none ↔ f.filenames = []))
      ∧ (∀ l : DesignLookup, ReadsBack DesignLookup.toJson DesignLookup.ofJson l)
      ∧ (∀ l : PinLookup, ReadsBack PinLookup.toJson PinLookup.ofJson l)
      ∧ (∀ r : DesignReference, ReadsBack DesignReference.toJson DesignReference.ofJson r)
      ∧ (∀ e : Event, ReadsBack Event.toJson Event.ofJson e)
      ∧ (∀ l : Lifecycle, ReadsBack Lifecycle.toJson Lifecycle.ofJson l)
      ∧ (∀ p : Pin, 0 ≤ p.designId → 0 ≤ p.versionId → ReadsBack Pin.toJson Pin.ofJson p) := by
  refine ⟨?_, ?_, ?_, ?_, ?_, ?_, ?_, ?_, ?_, ?_, ?_, ?_⟩
  · exact fun i => .of_readable i.ofJson_toJson i.readable_toJson
  · exact fun d => .of_readable d.ofJson_toJson d.readable_toJson
  · exact fun v h => .of_readable (Version.ofJson_toJson h) v.readable_toJson
  · exact fun t h => ⟨h.length_toRfc3339, h.ofRfc3339?_toRfc3339⟩
  · exact fun a => .of_readable a.ofJson_toJson a.readable_toJson
  · refine fun f => ⟨.of_readable f.ofJson_toJson f.readable_toJson, ?_, ?_⟩
    · rw [f.get?_ids]
      simp
    · rw [f.get?_filenames]
      simp
  · exact fun l => .of_readable l.ofJson_toJson l.readable_toJson
  · exact fun l => .of_readable l.ofJson_toJson l.readable_toJson
  · exact fun r => .of_readable r.ofJson_toJson r.readable_toJson
  · exact fun e => .of_readable e.ofJson_toJson (.text _)
  · exact fun l => .of_readable l.ofJson_toJson (.text _)
  · exact fun p hdesign hversion => .of_readable (Pin.ofJson_toJson hdesign hversion) (.text _)

/-- A version that was made in the last nanosecond of a leap day reads back, and a pin with the
largest id. -/
theorem records_readBack_leapDay :
    ReadsBack Version.toJson Version.ofJson ⟨7, 3, "", none, ⟨1709251199, 999999999⟩⟩
      ∧ Instant.toRfc3339 ⟨1709251199, 999999999⟩ = "2024-02-29T23:59:59.999999999Z"
      ∧ ReadsBack Pin.toJson Pin.ofJson ⟨0, 9223372036854775807⟩ := by
  obtain ⟨-, -, hversion, -, -, -, -, -, -, -, -, hpin⟩ := records_readBack
  exact ⟨hversion _ (by decide), by decide, hpin _ (by decide) (by decide)⟩

end Json

end DesignHistory
