import DesignHistory.Proofs.Session.Evolution
import DesignHistory.Proofs.Session.HandedOut

/-!
# The keys to a design as of a version

A design as of a version can be asked for by its identity, by its id or by its filename.  The
first is a join of the stored records, whether or not the design is in sight; the others pick
from the snapshot of the version and take the version from the one who asks.  They are
consistent nevertheless: the pair that is found by id is the one that its identity names, and
the one that is found by filename is the first of that name, which is the one found by the
least id.

## Main definitions

* `PinLookup.keyCount`: the number of keys that a lookup gives.
* `Tables.pinnedAt`: the designs in sight as of a version.
* `VersionKeys`: what it means that the keys are consistent.

## Main statements

* `PinLookup.key_of_keyCount_ne_one`, `PinLookup.cases_of_keyCount_eq_one`: the lookups that are
  refused, and the three kinds of the others.
* `Tables.exists_find?_pinnedAt`: what is found first in a snapshot has the least id.
* `Resolution.run_oneForVersion_design`, `Resolution.run_oneForVersion_of_names`: an id and a
  filename pick from the snapshot, and an identity names a stored pair.
* `Session.version_keys_consistent`: the keys in every session.
-/

namespace DesignHistory

/-! ### Keys -/

namespace PinLookup

/-- The number of keys that a lookup gives.  Asking with a lookup is an error for every number but
one. -/
def keyCount (l : PinLookup) : Nat :=
  [l.id.isSome, l.designId.isSome, l.filename.isSome].count true

/-- A lookup that does not give one key is refused, for none or for too many. -/
theorem key_of_keyCount_ne_one {l : PinLookup} (h : l.keyCount ≠ 1) :
    l.key = .error (if l.keyCount = 0 then .noKey else .tooManyKeys) := by
  obtain ⟨identity, designId, filename⟩ := l
  cases identity <;> cases designId <;> cases filename <;> simp [keyCount, key] at h ⊢

/-- A lookup that gives one key gives an identity, an id or a filename. -/
theorem cases_of_keyCount_eq_one {l : PinLookup} (h : l.keyCount = 1) :
    (∃ identity, l = { id := some identity }) ∨ (∃ id, l = { designId := some id })
      ∨ ∃ filename, l = { filename := some filename } := by
  obtain ⟨identity, designId, filename⟩ := l
  cases identity <;> cases designId <;> cases filename <;> simp [keyCount] at h ⊢

end PinLookup

/-! ### Snapshots -/

namespace Tables

variable {t : Tables} {v : Version} {p : PinnedDesign}

/-- The designs in sight as of a version. -/
def pinnedAt (t : Tables) (v : Version) : List PinnedDesign :=
  (t.visibleDesigns v {}).map fun d => .of d v

theorem version_of_mem_pinnedAt (hp : p ∈ t.pinnedAt v) : p.version = v := by
  obtain ⟨d, -, rfl⟩ := List.mem_map.1 hp
  rfl

theorem stores_of_mem_pinnedAt (ht : t.Keyed) (hv : t.versions.get? v.id = some v)
    (hp : p ∈ t.pinnedAt v) : t.Stores p := by
  obtain ⟨d, hd, rfl⟩ := List.mem_map.1 hp
  exact stores_of_mem_visibleDesigns ht hv hd

theorem pairwise_pinnedAt (ht : t.Keyed) (v : Version) :
    (t.pinnedAt v).Pairwise fun p q => KeyOrder.before p.design.id q.design.id = true := by
  rw [pinnedAt, ht.visibleDesigns_eq_filter]
  exact List.pairwise_map.2 (ht.pairwise_designs.filter _)

theorem filter_pinnedAt (ht : t.Keyed) (v : Version) (filter : DesignFilter) :
    (t.pinnedAt v).filter (fun p => filter.accepts p.design.id p.design.filename)
      = (t.visibleDesigns v filter).map fun d => .of d v := by
  rw [pinnedAt, ht.visibleDesigns_eq_filter, ht.visibleDesigns_eq_filter, List.filter_map,
    List.filter_filter]
  refine congrArg (List.map _) (List.filter_congr fun d _ => ?_)
  have hnone : ({} : DesignFilter).accepts d.id d.filename = true := rfl
  rw [hnone, Bool.and_true, Function.comp_apply, PinnedDesign.of_design, Bool.and_comm]

/-- Of what could be found in sight, the one with the least id is found first.  Filenames need not
be unique, so there may be several. -/
theorem exists_find?_pinnedAt (ht : t.Keyed) {found : PinnedDesign → Bool}
    (hexists : ∃ p ∈ t.pinnedAt v, found p = true) :
    ∃ p ∈ t.pinnedAt v, (t.pinnedAt v).find? found = some p ∧ found p = true
      ∧ ∀ q ∈ t.pinnedAt v, found q = true → p.design.id ≤ q.design.id := by
  obtain ⟨p, hp⟩ := Option.isSome_iff_exists.1 (List.find?_isSome.2 hexists)
  obtain ⟨hfound, first, rest, hsplit, hfirst⟩ := List.find?_eq_some_iff_append.1 hp
  refine ⟨p, List.mem_of_find?_eq_some hp, hp, hfound, fun q hq hq' => ?_⟩
  have hsorted := pairwise_pinnedAt ht v
  rw [hsplit] at hsorted hq
  -- nothing before the first one could be found, and what follows it has a greater id
  rcases List.mem_append.1 hq with hq | hq
  · have hnot := hfirst q hq
    rw [hq'] at hnot
    cases hnot
  · rcases List.mem_cons.1 hq with rfl | hq
    · exact Int64.le_refl _
    · have hbefore := (List.pairwise_cons.1 (List.pairwise_append.1 hsorted).2.1).1 q hq
      exact Int64.le_of_lt (of_decide_eq_true hbefore)

theorem find?_pinnedAt_id (ht : t.Keyed) (hp : p ∈ t.pinnedAt v) :
    (t.pinnedAt v).find? (fun q => q.design.id == p.design.id) = some p := by
  have hexists : ∃ q ∈ t.pinnedAt v, (q.design.id == p.design.id) = true :=
    ⟨p, hp, beq_self_eq_true _⟩
  obtain ⟨q, hq, hfound, hid, -⟩ := exists_find?_pinnedAt ht hexists
  rw [hfound, eq_of_key_eq (pairwise_pinnedAt ht v) hq hp (beq_iff_eq.1 hid)]

end Tables

/-! ### Lookups -/

namespace Resolution

variable {s : Store} {v : Version}

/-- The one design as of a version that an id or a filename means is the first in sight. -/
theorem run_oneForVersion_design (hs : s.tables.Keyed) (harmed : s.armed = none)
    {lookup : PinLookup} {key : DesignKey} (hkey : lookup.key = .ok (.design key)) :
    ((oneForVersion v lookup).run s).1 = .ok ((s.tables.pinnedAt v).find? fun p =>
      key.filter.accepts p.design.id p.design.filename) := by
  have hall : ((allForVersion v key.filter).run s).1
      = .ok ((s.tables.visibleDesigns v key.filter).map fun d => .of d v) := by
    rw [allForVersion, Inquiry.run, Store.query, harmed]
    rfl
  unfold oneForVersion
  rw [hkey]
  dsimp only
  rw [Inquiry.result_run_map, hall, ← Tables.filter_pinnedAt hs, Except.map, List.head?_filter]

/-- As of a stored version, an identity that names the version means the stored pair that it
names. -/
theorem run_oneForVersion_of_names (hs : s.tables.Keyed) (harmed : s.armed = none)
    (hv : s.tables.versions.get? v.id = some v) {identity : String} {pin : Pin}
    (hpin : Pin.decode? identity = some pin) (hid : pin.versionId = v.id) :
    ((oneForVersion v { id := some identity }).run s).1 = .ok (s.tables.resolve identity) := by
  rw [run_oneForVersion_identity hs harmed]
  cases hp : s.tables.resolve identity with
  | none => rfl
  | some p =>
    have hstored := Tables.stores_of_resolve hs hp
    obtain rfl := Option.some.inj (hpin.symm.trans (Tables.pin_of_resolve hs hp))
    rw [hstored.consistent.pin] at hid
    have hversion : p.version = v := hstored.version_eq hv hid
    have hissue : p.design.issueId = v.issueId := hversion ▸ hstored.consistent.issueId
    rw [Option.filter_some, hversion, hissue, beq_self_eq_true, beq_self_eq_true]
    rfl

/-- An identity that does not name the version means nothing as of it. -/
theorem run_oneForVersion_of_not_names (hs : s.tables.Keyed) (harmed : s.armed = none)
    {identity : String} (hpin : ∀ pin, Pin.decode? identity = some pin → pin.versionId ≠ v.id) :
    ((oneForVersion v { id := some identity }).run s).1 = .ok none := by
  rw [run_oneForVersion_identity hs harmed]
  cases hp : s.tables.resolve identity with
  | none => rfl
  | some p =>
    have hother := hpin _ (Tables.pin_of_resolve hs hp)
    rw [(Tables.stores_of_resolve hs hp).consistent.pin] at hother
    rw [Option.filter_some, beq_eq_false_iff_ne.2 hother, Bool.false_and]
    rfl

end Resolution

/-! ### Sessions -/

/-- The outcomes `one` of lookups as of a version are consistent with each other, with the list of
all designs as of the version, and with the outcomes `named` of identities.  It is a statement about
outcomes, so that it can be read without the tables. -/
structure VersionKeys (v : Version) (all : List PinnedDesign) (one : PinLookup → Outcome)
    (named : String → Outcome) : Prop where
  /-- A lookup has to give one key. -/
  refused : ∀ {lookup : PinLookup}, lookup.keyCount ≠ 1 →
    one lookup = .failed (.lookup (if lookup.keyCount = 0 then .noKey else .tooManyKeys))
  /-- What is found by one key is as of the version. -/
  answered : ∀ {lookup : PinLookup}, lookup.keyCount = 1 →
    ∃ found, one lookup = .answer (.pinned found) ∧ ∀ p ∈ found, p.version = v
  /-- The designs in sight are found by their ids. -/
  id_found : ∀ p ∈ all, one { designId := some p.design.id } = .answer (.pinned (some p))
  /-- No other design is found by its id. -/
  id_absent : ∀ {id : DesignId}, (∀ p ∈ all, p.design.id ≠ id) →
    one { designId := some id } = .answer (.pinned none)
  /-- Of the designs in sight with a filename, the one with the least id is found. -/
  filename_found : ∀ {filename : String}, (∃ p ∈ all, p.design.filename = filename) →
    ∃ p ∈ all, p.design.filename = filename
      ∧ (∀ q ∈ all, q.design.filename = filename → p.design.id ≤ q.design.id)
      ∧ one { filename := some filename } = one { designId := some p.design.id }
  /-- No other filename finds a design. -/
  filename_absent : ∀ {filename : String}, (∀ p ∈ all, p.design.filename ≠ filename) →
    one { filename := some filename } = .answer (.pinned none)
  /-- An identity that names the version finds what it names. -/
  identity_named : ∀ {identity : String} {pin : Pin}, Pin.decode? identity = some pin →
    pin.versionId = v.id → one { id := some identity } = named identity
  /-- No other text finds a design. -/
  identity_foreign : ∀ {identity : String},
    (∀ pin, Pin.decode? identity = some pin → pin.versionId ≠ v.id) →
    one { id := some identity } = .answer (.pinned none)

namespace Session

section Lookups

variable {s : Session} {given : Given Version} {v : Version}

/-- What a lookup as of a known version comes to. -/
theorem outcome_oneForVersion (hv : s.version? given = some v) (lookup : PinLookup) :
    (s.step (.ask (.oneForVersion given lookup))).1
      = .ofResult (((Resolution.oneForVersion v lookup).run s.store).1.map .pinned) := by
  have hresolved : (Question.oneForVersion given lookup).resolve? s.design? s.version?
      = some (.oneForVersion v lookup) := by
    rw [Question.resolve?, hv, Option.map_some]
  rw [outcome_ask hresolved, Question.inquiry, Inquiry.result_run_map]

variable (hs : s.store.tables.Keyed) (harmed : s.store.armed = none)

include hs harmed

theorem outcome_byIdentity (identity : String) :
    (s.step (.ask (.byIdentity identity))).1
      = .answer (.pinned (s.store.tables.resolve identity)) := by
  rw [outcome_ask rfl, Question.inquiry, Inquiry.result_run_map,
    Resolution.run_byIdentity hs harmed]
  rfl

/-- An id finds the first design in sight that has it. -/
theorem outcome_oneForVersion_id (hv : s.version? given = some v) (id : DesignId) :
    (s.step (.ask (.oneForVersion given { designId := some id }))).1
      = .answer (.pinned ((s.store.tables.pinnedAt v).find? fun p => p.design.id == id)) := by
  have hkey : ({ designId := some id } : PinLookup).key = .ok (.design (.ofId id)) := rfl
  rw [outcome_oneForVersion hv, Resolution.run_oneForVersion_design hs harmed hkey]
  simp only [DesignKey.filter, DesignFilter.accepts_byId]
  rfl

/-- A filename finds the first design in sight that has it. -/
theorem outcome_oneForVersion_filename (hv : s.version? given = some v) (filename : String) :
    (s.step (.ask (.oneForVersion given { filename := some filename }))).1
      = .answer (.pinned
          ((s.store.tables.pinnedAt v).find? fun p => p.design.filename == filename)) := by
  have hkey : ({ filename := some filename } : PinLookup).key
      = .ok (.design (.ofFilename filename)) := rfl
  rw [outcome_oneForVersion hv, Resolution.run_oneForVersion_design hs harmed hkey]
  simp only [DesignKey.filter, DesignFilter.accepts_byFilename]
  rfl

/-- What is found by one key is as of the version. -/
theorem exists_outcome_oneForVersion (hv : s.store.tables.versions.get? v.id = some v)
    (hgiven : s.version? given = some v) {lookup : PinLookup} (hone : lookup.keyCount = 1) :
    ∃ found, (s.step (.ask (.oneForVersion given lookup))).1 = .answer (.pinned found)
      ∧ ∀ p ∈ found, p.version = v := by
  rcases PinLookup.cases_of_keyCount_eq_one hone with ⟨identity, rfl⟩ | ⟨id, rfl⟩ | ⟨filename, rfl⟩
  · rw [outcome_oneForVersion hgiven, Resolution.run_oneForVersion_identity hs harmed]
    refine ⟨_, rfl, fun p hp => ?_⟩
    obtain ⟨hresolved, hfilter⟩ := Option.filter_eq_some_iff.1 hp
    obtain ⟨hid, -⟩ := (Bool.and_eq_true_iff).1 hfilter
    exact (Tables.stores_of_resolve hs hresolved).version_eq hv (beq_iff_eq.1 hid)
  · exact ⟨_, outcome_oneForVersion_id hs harmed hgiven id, fun p hp =>
      Tables.version_of_mem_pinnedAt (List.mem_of_find?_eq_some hp)⟩
  · exact ⟨_, outcome_oneForVersion_filename hs harmed hgiven filename, fun p hp =>
      Tables.version_of_mem_pinnedAt (List.mem_of_find?_eq_some hp)⟩

/-- Without an armed failure the keys to the designs as of a stored version are consistent.  It is
stated of one session, whatever led to it. -/
theorem versionKeys (hv : s.store.tables.versions.get? v.id = some v)
    (hgiven : s.version? given = some v) :
    VersionKeys v (s.store.tables.pinnedAt v)
      (fun lookup => (s.step (.ask (.oneForVersion given lookup))).1)
      (fun identity => (s.step (.ask (.byIdentity identity))).1) where
  refused {lookup} hkeys := by
    have hkey := PinLookup.key_of_keyCount_ne_one hkeys
    rw [outcome_oneForVersion hgiven, Resolution.oneForVersion, hkey]
    rfl
  answered hone := exists_outcome_oneForVersion hs harmed hv hgiven hone
  id_found p hp := by
    rw [outcome_oneForVersion_id hs harmed hgiven, Tables.find?_pinnedAt_id hs hp]
  id_absent {id} habsent := by
    have hnone : (s.store.tables.pinnedAt v).find? (fun p => p.design.id == id) = none :=
      List.find?_eq_none.2 fun p hp hid => habsent p hp (beq_iff_eq.1 hid)
    rw [outcome_oneForVersion_id hs harmed hgiven, hnone]
  filename_found {filename} hexists := by
    obtain ⟨q, hq, hqname⟩ := hexists
    have hexists : ∃ p ∈ s.store.tables.pinnedAt v, (p.design.filename == filename) = true :=
      ⟨q, hq, beq_iff_eq.2 hqname⟩
    obtain ⟨p, hp, hfound, hname, hleast⟩ := Tables.exists_find?_pinnedAt hs hexists
    refine ⟨p, hp, beq_iff_eq.1 hname, fun q hq hqname => hleast q hq (beq_iff_eq.2 hqname), ?_⟩
    rw [outcome_oneForVersion_filename hs harmed hgiven, hfound,
      outcome_oneForVersion_id hs harmed hgiven, Tables.find?_pinnedAt_id hs hp]
  filename_absent {filename} habsent := by
    have hnone : (s.store.tables.pinnedAt v).find? (fun p => p.design.filename == filename)
        = none :=
      List.find?_eq_none.2 fun p hp hname => habsent p hp (beq_iff_eq.1 hname)
    rw [outcome_oneForVersion_filename hs harmed hgiven, hnone]
  identity_named {identity pin} hpin hid := by
    rw [outcome_oneForVersion hgiven, Resolution.run_oneForVersion_of_names hs harmed hv hpin hid,
      outcome_byIdentity hs harmed]
    rfl
  identity_foreign {identity} hforeign := by
    rw [outcome_oneForVersion hgiven, Resolution.run_oneForVersion_of_not_names hs harmed hforeign]
    rfl

end Lookups

/-- **The keys to a design as of a version are consistent.** In a session without an armed failure
this holds of all three.  As long as the ids suffice, what is found by an id is what the identity of
the pair names; an id beyond would be negative, and no identity has a sign. -/
theorem version_keys_consistent (before : List Step) (harmed : (after before).store.armed = none)
    {v : Version} (hv : (after before).store.tables.versions.get? v.id = some v)
    {given : Given Version} (hgiven : Means v given) :
    ∃ all : List PinnedDesign,
      ((after before).step (.ask (.allForVersion given {}))).1 = .answer (.pinnedList all)
        ∧ VersionKeys v all
          (fun lookup => ((after before).step (.ask (.oneForVersion given lookup))).1)
          (fun identity => ((after before).step (.ask (.byIdentity identity))).1)
        ∧ (IdsSuffice before → ∀ p ∈ all,
          ((after before).step (.ask (.oneForVersion given { designId := some p.design.id }))).1
            = ((after before).step (.ask (.byIdentity (Pin.encode ⟨p.design.id, v.id⟩)))).1) := by
  have hkeyed := keyed_after before
  have hmeant := version?_of_means hv hgiven
  have hkeys := versionKeys hkeyed harmed hv hmeant
  refine ⟨_, answer_allForVersion harmed hmeant {}, hkeys, fun hids p hp => ?_⟩
  have hstored := Tables.stores_of_mem_pinnedAt hkeyed hv hp
  have hpin : p.pin = ⟨p.design.id, v.id⟩ := by
    rw [hstored.consistent.pin, Tables.version_of_mem_pinnedAt hp]
  rw [← hpin, outcome_byIdentity hkeyed harmed, resolve_of_stores hids hstored]
  exact hkeys.id_found p hp

/-- The filename of the created design finds what its identity names, and an identity as of
another version finds nothing. -/
theorem version_keys_consistent_of_creation :
    ((after (withDesign ++ [createDesign])).step
        (.ask (.oneForVersion (.stored 3) { filename := some "b" }))).1
      = ((after (withDesign ++ [createDesign])).step (.ask (.byIdentity (Pin.encode ⟨2, 3⟩)))).1
      ∧ ((after (withDesign ++ [createDesign])).step
        (.ask (.oneForVersion (.stored 3) { id := some "2.4" }))).1 = .answer (.pinned none) := by
  have hv : (after (withDesign ++ [createDesign])).store.tables.versions.get?
      createdPair.version.id = some createdPair.version := rfl
  obtain ⟨all, hall, hkeys, hnamed⟩ :=
    version_keys_consistent (withDesign ++ [createDesign]) rfl hv .stored
  have hanswer : ((after (withDesign ++ [createDesign])).step
      (.ask (.allForVersion (.stored 3) {}))).1 = .answer (.pinnedList [createdPair]) := rfl
  obtain rfl : [createdPair] = all := by
    injection hanswer.symm.trans hall with hlists
    injection hlists
  have hfilename : ∃ p ∈ [createdPair], p.design.filename = "b" :=
    ⟨createdPair, List.mem_cons_self, rfl⟩
  obtain ⟨p, hp, -, -, hfound⟩ := hkeys.filename_found hfilename
  obtain rfl := List.mem_singleton.1 hp
  have hids : IdsSuffice (withDesign ++ [createDesign]) := idsSuffice_of_countP (by decide)
  have hforeign : ∀ pin, Pin.decode? "2.4" = some pin → pin.versionId ≠ createdPair.version.id := by
    decide
  exact ⟨hfound.trans (hnamed hids createdPair hp), hkeys.identity_foreign hforeign⟩

end Session

end DesignHistory
