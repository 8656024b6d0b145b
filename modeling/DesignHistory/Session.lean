import DesignHistory.Answer
import DesignHistory.EventCache
import DesignHistory.Loader
import DesignHistory.ReferenceIndex

/-!
# Sessions

A session is a store that several named loaders, caches and indexes work on, one
step at a time.  Everything that the answer to a later step can depend on is part
of one value, `Session`, and a step is a function on it.

## Main definitions

* `Session`: the store and what is kept by name.
* `Question`: what can be asked of the store alone, and `Question.inquiry`.
* `Step`: everything that can happen in a session.
* `Session.step`, `Session.run`: one step, and a list of them.

A step may name a design, a version or an issue by its id, which then has to be
in the store, or give it in full.  A step that names something unknown is refused
and changes nothing.
-/

namespace DesignHistory

/-- A record named by its id or given in full.  Operations take records and not ids, and so can be
asked about a record that is not stored; a session has steps for both. -/
inductive Given (α : Type) where
  | stored (id : Int64)
  | literal (value : α)
deriving DecidableEq, Repr

/-- The record that is meant, if it is known. -/
def Given.resolve? {α : Type} (stored? : Int64 → Option α) : Given α → Option α
  | .stored id => stored? id
  | .literal value => some value

/-! ### Questions -/

/-- **What can be asked of the store alone.** Designs and versions are given as `δ` and `ν`: in a
step these are records named or given in full, and what is answered is the same question about the
records meant. -/
inductive Question (δ ν : Type) where
  | findIssue (id : IssueId)
  | findDesign (issueId : IssueId) (id : DesignId)
  | findDesignByFilename (issueId : IssueId) (filename : String)
  | designsOfIssue (issueId : IssueId)
  | designsByReference (references : List DesignReference)
  | findVersion (id : VersionId)
  | versionsOfIssue (issueId : IssueId)
  | versionBySha (issueId : IssueId) (sha : String)
  | actionsOfVersion (versionId : VersionId)
  | visibleDesigns (version : ν) (filter : DesignFilter)
  | changedDesigns (version : ν)
  | countAlways (chain : List Restriction)
  | loadAlways (chain : List Restriction)
  | count (chain : List Restriction)
  | isEmpty (chain : List Restriction)
  | records (chain : List Restriction)
  | byIdentity (identity : String)
  | byIdentityInIssue (issueId : IssueId) (identity : String)
  | byIdentities (identities : List String)
  | pair (design : δ) (version : ν)
  | eventAt (design : δ) (version : ν)
  | allForVersion (version : ν) (filter : DesignFilter)
  | oneForVersion (version : ν) (lookup : PinLookup)
  | designLookup (issueId : IssueId) (lookup : DesignLookup)
  | versionsUpTo (issueId : IssueId) (limit : Option ν)

namespace Question

/-- The question with designs and versions looked up.  None is the question whose record is unknown;
a record that is given in full is taken as it is. -/
def resolve? {δ ν δ' ν' : Type} (design? : δ → Option δ') (version? : ν → Option ν') :
    Question δ ν → Option (Question δ' ν')
  | findIssue id => some (findIssue id)
  | findDesign issueId id => some (findDesign issueId id)
  | findDesignByFilename issueId filename => some (findDesignByFilename issueId filename)
  | designsOfIssue issueId => some (designsOfIssue issueId)
  | designsByReference references => some (designsByReference references)
  | findVersion id => some (findVersion id)
  | versionsOfIssue issueId => some (versionsOfIssue issueId)
  | versionBySha issueId sha => some (versionBySha issueId sha)
  | actionsOfVersion versionId => some (actionsOfVersion versionId)
  | visibleDesigns v filter => (version? v).map (visibleDesigns · filter)
  | changedDesigns v => (version? v).map changedDesigns
  | countAlways chain => some (countAlways chain)
  | loadAlways chain => some (loadAlways chain)
  | count chain => some (count chain)
  | isEmpty chain => some (isEmpty chain)
  | records chain => some (records chain)
  | byIdentity identity => some (byIdentity identity)
  | byIdentityInIssue issueId identity => some (byIdentityInIssue issueId identity)
  | byIdentities identities => some (byIdentities identities)
  | pair d v => (design? d).bind fun d => (version? v).map (pair d)
  | eventAt d v => (design? d).bind fun d => (version? v).map (eventAt d)
  | allForVersion v filter => (version? v).map (allForVersion · filter)
  | oneForVersion v lookup => (version? v).map (oneForVersion · lookup)
  | designLookup issueId lookup => some (designLookup issueId lookup)
  | versionsUpTo issueId none => some (versionsUpTo issueId none)
  | versionsUpTo issueId (some v) => (version? v).map fun v => versionsUpTo issueId (some v)

/-- How a question is answered.  The questions of the store itself always ask it, and those of the
layer above may be settled before that. -/
def inquiry : Question Design Version → Inquiry Answer
  | findIssue id => .asks fun t => .issue (t.findIssue id)
  | findDesign issueId id => .asks fun t => .design (t.findDesign issueId id)
  | findDesignByFilename issueId filename =>
    .asks fun t => .design (t.findDesignByFilename issueId filename)
  | designsOfIssue issueId => .asks fun t => .designs (t.designsOfIssue issueId)
  | designsByReference references => (Resolution.designsByReference references).map .designs
  | findVersion id => .asks fun t => .version (t.findVersion id)
  | versionsOfIssue issueId => .asks fun t => .versions (t.versionsOfIssue issueId)
  | versionBySha issueId sha => (Resolution.versionBySha issueId sha).map .version
  | actionsOfVersion versionId => .asks fun t => .actions (t.actionsOfVersion versionId)
  | visibleDesigns v filter => .asks fun t => .designs (t.visibleDesigns v filter)
  | changedDesigns v => (Resolution.changedDesigns v).map .designs
  | countAlways chain => .asks fun t => .number (t.select (.ofChain chain)).length
  | loadAlways chain => .asks fun t => .pinnedList (t.select (.ofChain chain))
  | count chain => (Selection.ofChain chain).count.map fun n : Nat => .number n
  | isEmpty chain => (Selection.ofChain chain).isEmpty.map .flag
  | records chain => (Selection.ofChain chain).records.map .pinnedList
  | byIdentity identity => (Resolution.byIdentity identity).map .pinned
  | byIdentityInIssue issueId identity =>
    (Resolution.byIdentityInIssue issueId identity).map .pinned
  | byIdentities identities => (Resolution.byIdentities identities).map .pinnedSlots
  | pair d v => (Resolution.pair d v).map fun p => .pinned (some p)
  | eventAt d v =>
    match PinnedDesign.ofPair d v with
    | .ok p => (Resolution.eventAt p).map .event
    | .error e => .settled (.error (.mismatch e))
  | allForVersion v filter => (Resolution.allForVersion v filter).map .pinnedList
  | oneForVersion v lookup => (Resolution.oneForVersion v lookup).map .pinned
  | designLookup issueId lookup => (Resolution.design issueId lookup).map .design
  | versionsUpTo issueId limit => (Resolution.versions issueId limit).map .versions

end Question

/-! ### Steps -/

/-- **What can happen in a session.** Some steps set the store up, and the others use it.  Loaders,
handles, caches and indexes go by names, so that a session has any number of them side by side. -/
inductive Step where
  | insertIssue (projectId : ProjectId) (title : String)
  | insertDesign (issue : Given Issue) (filename : String)
  | commitVersion (issue : Given Issue) (events : List (DesignId × Event)) (createdAt : Instant)
  | failNext (message : String)
  | ask (question : Question (Given Design) (Given Version))
  | newLoader (loader : String)
  | dropLoader (loader : String)
  | load (loader : String) (pin : Pin) (handle : String)
  | loadIdentity (loader : String) (identity : String) (handle : String)
  | dispatch (loader : String)
  | loaderState (loader : String)
  | resolveAll (loader : String) (identities : List String)
  | poll (handle : String)
  | dropHandle (handle : String)
  | newCache (cache : String)
  | eventsFor (cache : String) (version : Given Version)
  | eventFor (cache : String) (designId : DesignId) (version : Given Version)
  | cacheSize (cache : String)
  | resolveIndex (index : String) (references : List DesignReference)
  | indexGet (index : String) (projectId : ProjectId) (issueId : IssueId) (filename : String)
  | indexFind (index : String) (reference : DesignReference)

/-- **A store, and what works on it by name.** All loaders, caches and indexes share the one store,
and all loaders draw their tickets from one counter, so that no two lookups of a session have the
same ticket. -/
structure Session where
  store : Store := .empty
  loaders : SortedMap String Loader := .empty
  handles : SortedMap String Handle := .empty
  caches : SortedMap String EventCache := .empty
  indexes : SortedMap String ReferenceIndex := .empty
  nextTicket : Ticket := 0

namespace Session

/-- The session before its first step. -/
def empty : Session := {}

/-- The issue that is meant. -/
def issue? (s : Session) : Given Issue → Option Issue := Given.resolve? s.store.tables.issues.get?

/-- The design that is meant. -/
def design? (s : Session) : Given Design → Option Design :=
  Given.resolve? s.store.tables.designs.get?

/-- The version that is meant. -/
def version? (s : Session) : Given Version → Option Version :=
  Given.resolve? s.store.tables.versions.get?

/-- Gives answers to the handles that wait for them. -/
def deliver (s : Session) (answers : List (Ticket × LoadResult)) : Session :=
  { s with handles := s.handles.mapValues (Handle.receive answers) }

/-- The session without a loader, whose waiting lookups are cancelled. -/
def withoutLoader (s : Session) (name : String) : Session :=
  match s.loaders.get? name with
  | some loader =>
    { s.deliver loader.pending.cancellations with loaders := s.loaders.erase name }
  | none => s

/-- Schedules the lookup of a pin, or answers at once if there is none.  Every lookup has a ticket
of its own, also one for a pin that is already asked for. -/
def schedule (s : Session) (name : String) (loader : Loader) (pin : Option Pin)
    (handle : String) : Session × Nat :=
  match pin with
  | some pin =>
    let loader := loader.load pin s.nextTicket
    ({ s with
        loaders := s.loaders.insert name loader
        handles := s.handles.insert handle (.waiting s.nextTicket)
        nextTicket := s.nextTicket + 1 },
      loader.pendingCount)
  | none =>
    ({ s with handles := s.handles.insert handle (.answered (.ok none)) }, loader.pendingCount)

/-- Dispatches a loader and gives its tickets their answers. -/
def dispatch (s : Session) (name : String) (loader : Loader) : Loader.Dispatched × Session :=
  let d := loader.dispatch s.store
  (d, { s.deliver d.answers with store := d.store, loaders := s.loaders.insert name d.loader })

/-- Looks a version up in a cache. -/
def eventsFor (s : Session) (name : String) (cache : EventCache) (v : Version) :
    Except StoreError (SortedMap DesignId Event) × Session :=
  let a := cache.eventsFor v s.store
  (a.result, { s with store := a.store, caches := s.caches.insert name a.cache })

/-- **One step**: what becomes of it, and the session after it.  A step that names something that is
not there is refused and changes nothing. -/
def step (s : Session) : Step → Outcome × Session
  | .insertIssue projectId title =>
    let (issue, store) := s.store.insertIssue projectId title
    (.answer (.issue (some issue)), { s with store })
  | .insertDesign issue filename =>
    match s.issue? issue with
    | none => (.refused, s)
    | some issue =>
      let (design, store) := s.store.insertDesign issue filename
      (.answer (.design (some design)), { s with store })
  | .commitVersion issue events createdAt =>
    match s.issue? issue with
    | none => (.refused, s)
    | some issue =>
      let (version, store) := s.store.commitVersion issue events createdAt
      (.answer (.version (some version)), { s with store })
  | .failNext message => (.answer .nothing, { s with store := s.store.failNext message })
  | .ask question =>
    match question.resolve? s.design? s.version? with
    | none => (.refused, s)
    | some question =>
      let (result, store) := question.inquiry.run s.store
      (.ofResult result, { s with store })
  | .newLoader name =>
    let s := s.withoutLoader name
    (.answer .nothing, { s with loaders := s.loaders.insert name {} })
  | .dropLoader name =>
    (.answer (.flag (s.loaders.contains name)), s.withoutLoader name)
  | .load name pin handle =>
    match s.loaders.get? name with
    | none => (.refused, s)
    | some loader =>
      let (s, pending) := s.schedule name loader (some pin) handle
      (.answer (.scheduled pending), s)
  | .loadIdentity name identity handle =>
    match s.loaders.get? name with
    | none => (.refused, s)
    | some loader =>
      let (s, pending) := s.schedule name loader (Pin.decode? identity) handle
      (.answer (.scheduled pending), s)
  | .dispatch name =>
    match s.loaders.get? name with
    | none => (.refused, s)
    | some loader =>
      let (d, s) := s.dispatch name loader
      (.ofLoad (d.result.map fun n : Nat => .number n), s)
  | .loaderState name =>
    match s.loaders.get? name with
    | none => (.refused, s)
    | some loader => (.answer (.loaderState loader.pendingCount loader.batches), s)
  | .resolveAll name identities =>
    match s.loaders.get? name with
    | none => (.refused, s)
    | some loader =>
      let (slots, loader, nextTicket) := loader.loadAll s.nextTicket identities
      let (d, s) := { s with nextTicket }.dispatch name loader
      (.ofLoad (d.result.bind fun _ => (collect slots d.answers).map .pinnedSlots), s)
  | .poll name =>
    match s.handles.get? name with
    | none => (.refused, s)
    | some (.waiting _) => (.answer .waiting, s)
    | some (.answered result) =>
      (.ofLoad (result.map .ready), { s with handles := s.handles.erase name })
  | .dropHandle name =>
    (.answer (.flag (s.handles.contains name)), { s with handles := s.handles.erase name })
  | .newCache name => (.answer .nothing, { s with caches := s.caches.insert name {} })
  | .eventsFor name version =>
    match s.caches.get? name, s.version? version with
    | some cache, some version =>
      let (result, s) := s.eventsFor name cache version
      (.ofResult ((result.map .events).mapError .store), s)
    | _, _ => (.refused, s)
  | .eventFor name designId version =>
    match s.caches.get? name, s.version? version with
    | some cache, some version =>
      let (result, s) := s.eventsFor name cache version
      (.ofResult ((result.map fun events => .event (events.get? designId)).mapError .store), s)
    | _, _ => (.refused, s)
  | .cacheSize name =>
    match s.caches.get? name with
    | none => (.refused, s)
    | some cache => (.answer (.number cache.size), s)
  | .resolveIndex name references =>
    let (result, store) := (ReferenceIndex.resolve references).run s.store
    let s := { s with store }
    match result with
    | .error e => (.failed e, s)
    | .ok index =>
      (.answer (.index index.size index.isEmpty (references.map index.find?)),
        { s with indexes := s.indexes.insert name index })
  | .indexGet name projectId issueId filename =>
    match s.indexes.get? name with
    | none => (.refused, s)
    | some index => (.answer (.design (index.get? projectId issueId filename)), s)
  | .indexFind name reference =>
    match s.indexes.get? name with
    | none => (.refused, s)
    | some index => (.answer (.design (index.find? reference)), s)

/-- The outcomes of several steps in order, and the session after them.  A step that fails does not
end the run. -/
def run (s : Session) : List Step → List Outcome × Session
  | [] => ([], s)
  | step :: rest =>
    let (outcome, s) := s.step step
    let (outcomes, s) := s.run rest
    (outcome :: outcomes, s)

end Session

end DesignHistory
