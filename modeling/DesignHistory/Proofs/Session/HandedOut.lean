import DesignHistory.Proofs.Pin.Codec
import DesignHistory.Proofs.Resolution.Agreement
import DesignHistory.Proofs.Session.Consistency
import DesignHistory.Proofs.Session.Snapshots
import DesignHistory.Proofs.Store.Keeping

/-!
# Identities that were handed out

Whoever is answered with a pinned design holds its identity, and can come back with it at
any time.  Where the pinned design comes from does not matter: a join reads both of its
parts from the tables, a snapshot takes the version from the one who asks, and a handle has
what was stored when its batch was fetched.  In each case it is the stored design with the
stored version, and as nothing that is stored is ever written over, the identity leads back
to it.

## Main definitions

* `Tables.Stores`: a pinned design is the stored one of its name.
* `Session.AsksOfStored`: a step that does not bring its own design or version.

## Main statements

* `Question.stores_of_mem_answer`, `Session.holdsStored_after`: where pinned designs in
  answers come from.
* `Session.handed_out_resolves`: at every later moment the identity resolves to the same
  pinned design.
-/

namespace DesignHistory

/-! ### Stored pinned designs -/

namespace Tables

/-- A pinned design is the stored one of its name.  It speaks of the tables only, and what is stored
once stays stored. -/
def Stores (t : Tables) (p : PinnedDesign) : Prop := t.pinned? p.pin = some p

variable {t t' : Tables} {p : PinnedDesign}

theorem stores_of_pinned? (ht : t.Keyed) {pin : Pin} (h : t.pinned? pin = some p) :
    t.Stores p := by
  rw [Stores, ht.pin_of_pinned? h, h]

theorem stores_of_resolve (ht : t.Keyed) {identity : String} (h : t.resolve identity = some p) :
    t.Stores p := by
  obtain ⟨pin, -, hpin⟩ := Option.bind_eq_some_iff.1 h
  exact stores_of_pinned? ht hpin

theorem stores_of_mem_select (ht : t.Keyed) {s : Selection} (h : p ∈ t.select s) : t.Stores p :=
  ((mem_select_iff ht).1 h).1

/-- A design in sight as of a stored version is stored with it. -/
theorem stores_of_mem_visibleDesigns (ht : t.Keyed) {v : Version}
    (hv : t.versions.get? v.id = some v) {filter : DesignFilter} {d : Design}
    (h : d ∈ t.visibleDesigns v filter) : t.Stores (.of d v) := by
  have hissue : d.issueId = v.issueId := issueId_of_mem_snapshot h
  obtain ⟨id, hid⟩ := SortedMap.mem_values_iff.1
    (List.mem_filter.1 ((sortOn_perm _ _).mem_iff.1 h)).1
  obtain rfl := ht.design hid
  exact pinned?_eq_some_iff.2 ⟨hid, hv, PinnedDesign.consistent_of hissue⟩

theorem Keeps.stores (h : t.Keeps t') (hp : t.Stores p) : t'.Stores p := by
  obtain ⟨hd, hv, hissue⟩ := pinned?_eq_some_iff.1 hp
  exact pinned?_eq_some_iff.2 ⟨h.design hd, h.version hv, hissue⟩

theorem pin_of_resolve (ht : t.Keyed) {identity : String} (hp : t.resolve identity = some p) :
    Pin.decode? identity = some p.pin := by
  obtain ⟨pin, hpin, hnamed⟩ := Option.bind_eq_some_iff.1 hp
  rw [hpin, ht.pin_of_pinned? hnamed]

theorem Stores.consistent (hp : t.Stores p) : p.Consistent := consistent_of_pinned? hp

theorem Stores.get?_version (hp : t.Stores p) :
    t.versions.get? p.version.id = some p.version := by
  obtain ⟨-, hversion, hconsistent⟩ := pinned?_eq_some_iff.1 hp
  rwa [hconsistent.pin] at hversion

/-- What is stored under the id of a stored version is of that version. -/
theorem Stores.version_eq (hp : t.Stores p) (hv : t.versions.get? v.id = some v)
    (hid : p.version.id = v.id) : p.version = v := by
  have hversion := hp.get?_version
  rw [hid, hv] at hversion
  exact (Option.some.inj hversion).symm

/-- The text form of a pin whose ids are not negative resolves to what the pin names. -/
theorem resolve_encode {pin : Pin} (hd : 0 ≤ pin.designId) (hv : 0 ≤ pin.versionId) :
    t.resolve pin.encode = t.pinned? pin := by
  rw [resolve, Pin.decode?_eq_some_iff.2 ⟨hd, hv, rfl⟩, Option.bind_some]

end Tables

/-! ### Questions -/

/-- A result that an armed failure does not stand in the way of is the one without it. -/
theorem Inquiry.run_disarmed {α : Type} {q : Inquiry α} {s : Store} {a : α}
    (h : (q.run s).1 = .ok a) : (q.run { s with armed := none }).1 = .ok a := by
  cases q with
  | settled result => exact h
  | asks read =>
    cases harmed : s.armed with
    | none =>
      simp only [run, Store.query, harmed] at h
      exact h
    | some message =>
      simp only [run, Store.query, harmed] at h
      cases h

/-- The one design as of a version that an identity means is looked up among the designs of
the issue. -/
theorem Resolution.run_oneForVersion_identity {s : Store} (hs : s.tables.Keyed)
    (harmed : s.armed = none) (v : Version) (identity : String) :
    ((oneForVersion v { id := some identity }).run s).1
      = .ok ((s.tables.resolve identity).filter fun p =>
          p.version.id == v.id && p.design.issueId == v.issueId) := by
  have hkey : ({ id := some identity } : PinLookup).key = .ok (.identity identity) := rfl
  unfold oneForVersion Tables.resolve
  rw [hkey]
  dsimp only
  cases Pin.decode? identity with
  | none => rfl
  | some pin =>
    show ((if pin.versionId = v.id then _ else _ : Inquiry (Option PinnedDesign)).run s).1 = _
    have hpid : ∀ p, s.tables.pinned? pin = some p →
        (p.version.id == v.id) = decide (pin.versionId = v.id) :=
      fun p hp => by
        rw [← hs.pin_of_pinned? hp, (Tables.consistent_of_pinned? hp).pin]
        rfl
    rw [Option.bind_some]
    split
    · rename_i hid
      rw [Inquiry.result_run_map, Selection.run_records _ harmed, Except.map,
        Tables.head?_select_forPin_forIssue hs]
      cases hp : s.tables.pinned? pin with
      | none => rfl
      | some p => simp only [Option.filter_some, hpid p hp, hid, decide_true, Bool.true_and]
    · rename_i hid
      cases hp : s.tables.pinned? pin with
      | none => rfl
      | some p => simp [Option.filter_some, hpid p hp, hid, Inquiry.run]

namespace Question

/-- A question that does not bring its own design or version. -/
def IsOfStored (t : Tables) : Question Design Version → Prop
  | .pair .. => False
  | .allForVersion v _ | .oneForVersion v _ => t.versions.get? v.id = some v
  | _ => True

/-- The one design as of a stored version that a lookup means is stored with it.  An identity is
resolved from the tables, and an id or a filename is looked for among the designs in sight, which
are stored, too. -/
theorem stores_of_run_oneForVersion {s : Store} (hs : s.tables.Keyed) (harmed : s.armed = none)
    {v : Version} (hv : s.tables.versions.get? v.id = some v) {lookup : PinLookup}
    {p : PinnedDesign} (h : ((Resolution.oneForVersion v lookup).run s).1 = .ok (some p)) :
    s.tables.Stores p := by
  unfold Resolution.oneForVersion at h
  split at h
  · cases h
  · split at h
    · cases h
    · split at h
      · rw [Inquiry.result_run_map, Selection.run_records _ harmed] at h
        exact Tables.stores_of_mem_select hs (List.mem_of_head? (Except.ok.inj h))
      · cases h
  · rw [Inquiry.result_run_map] at h
    obtain ⟨ps, hps, hhead⟩ := exists_of_map_eq_ok h
    simp only [Resolution.allForVersion, Inquiry.run, Store.query, harmed] at hps
    obtain rfl := Except.ok.inj hps
    obtain ⟨d, hd, rfl⟩ := List.mem_map.1 (List.mem_of_head? hhead)
    exact Tables.stores_of_mem_visibleDesigns hs hv hd

/-- A pinned design in the answer to a question that does not bring its own design or version
is stored. -/
theorem stores_of_mem_answer {s : Store} (hs : s.tables.Keyed) {question : Question Design Version}
    (hquestion : question.IsOfStored s.tables) {a : Answer}
    (ha : (question.inquiry.run s).1 = .ok a) {p : PinnedDesign} (hp : p ∈ a.pinnedDesigns) :
    s.tables.Stores p := by
  replace ha := Inquiry.run_disarmed ha
  have hs' : ({ s with armed := none } : Store).tables.Keyed := hs
  -- most answers have no place for a pinned design
  have hnil : ∀ {α : Type} (f : α → Answer) (q : Inquiry α), (∀ b, (f b).pinnedDesigns = []) →
      ((q.map f).run { s with armed := none }).1 = .ok a → s.tables.Stores p := by
    intro α f q hf h
    rw [Inquiry.result_run_map] at h
    obtain ⟨b, -, rfl⟩ := exists_of_map_eq_ok h
    rw [hf b] at hp
    cases hp
  cases question with
  | designsByReference references =>
    exact hnil .designs (Resolution.designsByReference references) (fun _ => rfl) ha
  | versionBySha issueId sha =>
    exact hnil .version (Resolution.versionBySha issueId sha) (fun _ => rfl) ha
  | changedDesigns v => exact hnil .designs (Resolution.changedDesigns v) (fun _ => rfl) ha
  | count chain =>
    exact hnil (fun n : Nat => .number n) (Selection.ofChain chain).count (fun _ => rfl) ha
  | isEmpty chain => exact hnil .flag (Selection.ofChain chain).isEmpty (fun _ => rfl) ha
  | eventAt d v =>
    rw [inquiry] at ha
    split at ha
    · exact hnil .event (Resolution.eventAt _) (fun _ => rfl) ha
    · cases ha
  | designLookup issueId lookup =>
    exact hnil .design (Resolution.design issueId lookup) (fun _ => rfl) ha
  | versionsUpTo issueId limit =>
    exact hnil .versions (Resolution.versions issueId limit) (fun _ => rfl) ha
  | byIdentity identity =>
    rw [inquiry, Inquiry.result_run_map, Resolution.run_byIdentity hs' rfl] at ha
    obtain rfl := Except.ok.inj ha
    exact Tables.stores_of_resolve hs (Option.mem_toList.1 hp)
  | byIdentityInIssue issueId identity =>
    rw [inquiry, Inquiry.result_run_map, Resolution.run_byIdentityInIssue hs' rfl] at ha
    obtain rfl := Except.ok.inj ha
    exact Tables.stores_of_resolve hs (Option.eq_some_of_filter_eq_some (Option.mem_toList.1 hp))
  | byIdentities identities =>
    rw [inquiry, Inquiry.result_run_map, Resolution.run_byIdentities hs' rfl] at ha
    obtain rfl := Except.ok.inj ha
    obtain ⟨slot, hslot, rfl⟩ := List.mem_filterMap.1 hp
    obtain ⟨identity, -, hidentity⟩ := List.mem_map.1 hslot
    exact Tables.stores_of_resolve hs hidentity
  | records chain =>
    rw [inquiry, Inquiry.result_run_map, Selection.run_records _ rfl] at ha
    obtain rfl := Except.ok.inj ha
    exact Tables.stores_of_mem_select hs hp
  | loadAlways chain =>
    obtain rfl := Except.ok.inj ha
    exact Tables.stores_of_mem_select hs hp
  | allForVersion v filter =>
    obtain rfl := Except.ok.inj ha
    obtain ⟨d, hd, rfl⟩ := List.mem_map.1 hp
    exact Tables.stores_of_mem_visibleDesigns hs hquestion hd
  | oneForVersion v lookup =>
    rw [inquiry, Inquiry.result_run_map] at ha
    obtain ⟨value, hvalue, rfl⟩ := exists_of_map_eq_ok ha
    obtain rfl := Option.mem_toList.1 hp
    exact stores_of_run_oneForVersion hs' rfl hquestion hvalue
  | pair d v => exact hquestion.elim
  | _ =>
    obtain rfl := Except.ok.inj ha
    cases hp

end Question

/-! ### Sessions -/

namespace Session

/-- A step that, if it is a question, does not bring its own design or version.  A caller that
brings a version of its own is answered about that, whether or not it is stored. -/
def AsksOfStored (s : Session) : Step → Prop
  | .ask question => ∀ resolved, question.resolve? s.design? s.version? = some resolved →
    resolved.IsOfStored s.store.tables
  | _ => True

/-- The pinned designs that handles hold are stored. -/
def HoldsStored (s : Session) : Prop :=
  ∀ {handle p}, s.handles.get? handle = some (.answered (.ok (some p))) → s.store.tables.Stores p

/-- A step that writes over nothing leaves what handles hold stored. -/
theorem holdsStored_step {s : Session} {step : Step} (hs : s.store.tables.Keyed)
    (hunused : s.FindsUnused step) (h : s.HoldsStored) : (s.step step).2.HoldsStored := by
  intro handle p hp
  refine (keeps_step hunused).stores ?_
  rcases answered_step_cases hp with hp | ⟨t, ht⟩
  · exact h hp
  · obtain ⟨pin, hpin⟩ := exists_pinned?_of_mem_answers hs ht
    exact Tables.stores_of_pinned? hs hpin

/-- In every session the pinned designs that handles hold are stored. -/
theorem holdsStored_after {steps : List Step} (hids : IdsSuffice steps) :
    (after steps).HoldsStored := by
  refine (run_induction (P := fun s => s.store.tables.Keyed ∧ s.HoldsStored) ?_
    ⟨keyed_after [], ?_⟩ (along_findsUnused_of_findsId bounded_empty hids)).2
  · intro s step hunused ⟨hkeyed, hholds⟩
    exact ⟨keyed_step hkeyed step, holdsStored_step hkeyed hunused hholds⟩
  · intro handle p hp
    cases hp

/-- A pinned design that a step answers with is stored. -/
theorem stores_of_mem_step {s : Session} (hs : s.store.tables.Keyed) (h : s.HoldsStored)
    {step : Step} (hstep : s.AsksOfStored step) {p : PinnedDesign}
    (hp : p ∈ (s.step step).1.pinnedDesigns) : s.store.tables.Stores p := by
  rcases mem_pinnedDesigns_step hp with
    ⟨question, resolved, a, rfl, hresolved, hresult, hp⟩ | ⟨handle, hheld⟩ | ⟨t, ht⟩
  · exact Question.stores_of_mem_answer hs (hstep resolved hresolved) hresult hp
  · exact h hheld
  · obtain ⟨pin, hpin⟩ := exists_pinned?_of_mem_answers hs ht
    exact Tables.stores_of_pinned? hs hpin

/-- The ids of what is stored are positive. -/
theorem pos_of_stores {steps : List Step} (hids : IdsSuffice steps) {p : PinnedDesign}
    (hp : (after steps).store.tables.Stores p) : 0 < p.design.id ∧ 0 < p.version.id := by
  have hcontinues : (after steps).Continues empty.store := continues_run bounded_empty hids
  have habove : ∀ {α : Type} {idOf : α → Int64} {l : List α}, Lengthened idOf 0 [] l →
      ∀ a ∈ l, 0 < idOf a := by
    rintro α idOf l ⟨more, rfl, hmore⟩
    exact hmore
  obtain ⟨hd, hv, -⟩ := Tables.pinned?_eq_some_iff.1 hp
  exact ⟨habove hcontinues.tables.designs _ (SortedMap.mem_values_iff.2 ⟨_, hd⟩),
    habove hcontinues.tables.versions _ (SortedMap.mem_values_iff.2 ⟨_, hv⟩)⟩

/-- The identity of what is stored resolves to it. -/
theorem resolve_of_stores {steps : List Step} (hids : IdsSuffice steps) {p : PinnedDesign}
    (hp : (after steps).store.tables.Stores p) :
    (after steps).store.tables.resolve p.pin.encode = some p := by
  obtain ⟨hd, hv⟩ := pos_of_stores hids hp
  have hpin := hp.consistent.pin
  have hdesign : 0 ≤ p.pin.designId := hpin ▸ Int64.le_of_lt hd
  have hversion : 0 ≤ p.pin.versionId := hpin ▸ Int64.le_of_lt hv
  rw [Tables.resolve_encode hdesign hversion]
  exact hp

/-- **What was handed out resolves.** A pinned design that a step answered with, other than from a
design or a version that it was given, is what its identity resolves to then and at every later
moment: asked for alone, in the issue of the design, or as of the version. -/
theorem handed_out_resolves {before later : List Step} {step : Step} {p : PinnedDesign}
    (hstep : (after before).AsksOfStored step)
    (hp : p ∈ ((after before).step step).1.pinnedDesigns) (hids : IdsSuffice (before ++ later))
    (harmed : (after (before ++ later)).store.armed = none) :
    ((after (before ++ later)).step (.ask (.byIdentity p.pin.encode))).1
        = .answer (.pinned (some p))
      ∧ ((after (before ++ later)).step
          (.ask (.byIdentityInIssue p.design.issueId p.pin.encode))).1 = .answer (.pinned (some p))
      ∧ ∀ given, Means p.version given → ((after (before ++ later)).step
          (.ask (.oneForVersion given { id := some p.pin.encode }))).1
        = .answer (.pinned (some p)) := by
  have hbefore : IdsSuffice before := (along_append.1 hids).1
  have hstored : (after (before ++ later)).store.tables.Stores p := (keeps_after hids).stores
    (stores_of_mem_step (keyed_after before) (holdsStored_after hbefore) hstep hp)
  have hkeyed := keyed_after (before ++ later)
  have hresolve := resolve_of_stores hids hstored
  refine ⟨?_, ?_, fun given hgiven => ?_⟩
  · rw [outcome_ask rfl, Question.inquiry, Inquiry.result_run_map,
      Resolution.run_byIdentity hkeyed harmed, hresolve]
    rfl
  · rw [outcome_ask rfl, Question.inquiry, Inquiry.result_run_map,
      Resolution.run_byIdentityInIssue hkeyed harmed, hresolve, Option.filter_some,
      if_pos (beq_self_eq_true _)]
    rfl
  · have hmeant : Question.resolve? (after (before ++ later)).design?
        (after (before ++ later)).version? (.oneForVersion given { id := some p.pin.encode })
        = some (.oneForVersion p.version { id := some p.pin.encode }) := by
      rw [Question.resolve?, version?_of_means hstored.get?_version hgiven, Option.map_some]
    rw [outcome_ask hmeant, Question.inquiry, Inquiry.result_run_map,
      Resolution.run_oneForVersion_identity hkeyed harmed, hresolve, Option.filter_some,
      beq_self_eq_true, beq_iff_eq.2 hstored.consistent.issueId]
    rfl

/-- The design of `withDesign` as of its creation. -/
def createdPair : PinnedDesign :=
  .of ⟨2, 7, 1, "b"⟩ ⟨3, 1, Version.computeSha 1 none [⟨2, 3, .creation⟩], none, default⟩

/-- An identity taken from a snapshot resolves after the design was deleted. -/
theorem handed_out_resolves_past_deletion :
    ((after (withDesign ++ [createDesign])).step (.ask (.allForVersion (.stored 3) {}))).1
        = .answer (.pinnedList [createdPair])
      ∧ ((after (withDesign ++ [createDesign] ++ deleteDesign)).step
          (.ask (.byIdentity createdPair.pin.encode))).1
        = .answer (.pinned (some createdPair)) := by
  have hanswer : ((after (withDesign ++ [createDesign])).step
      (.ask (.allForVersion (.stored 3) {}))).1 = .answer (.pinnedList [createdPair]) := rfl
  have hmem : ∀ {outcome : Outcome}, outcome = .answer (.pinnedList [createdPair]) →
      createdPair ∈ outcome.pinnedDesigns := by
    rintro outcome rfl
    exact List.mem_singleton.2 rfl
  have hstored : (after (withDesign ++ [createDesign])).AsksOfStored
      (.ask (.allForVersion (.stored 3) {})) := by
    rintro resolved ⟨⟩
    rfl
  exact ⟨hanswer,
    (handed_out_resolves hstored (hmem hanswer) (idsSuffice_of_countP (by decide)) rfl).1⟩

end Session

end DesignHistory
