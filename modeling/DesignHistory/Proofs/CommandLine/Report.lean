import DesignHistory.Proofs.CommandLine.Arguments
import DesignHistory.Proofs.Database.Replies
import DesignHistory.Proofs.Json.Lines
import DesignHistory.Proofs.Json.Records
import DesignHistory.Proofs.Resolution.Agreement
import DesignHistory.Proofs.Resolution.Consistency
import DesignHistory.Proofs.Session.Queries

/-!
# What a run prints

A run fails without a line, or it prints one line for each identity in the order of the
arguments.  The line of an identity depends on the identity, on the issue that is asked for
and on the records in the reply, whatever else is in it and in whatever order: it shows the
last record with the two ids that the identity denotes.

What it means for a line to show a record is said without the way in which the program writes
one.  The line is read again, and what is read is compared with a value that is written out
member by member; its three parts are read back as the record's, too.

The report of a run has its lines all at once.  A program that looks at one place after the
other and prints each result as it comes would print part of the lines if a later place
failed.  No place does so once the one query was answered, so that the two print the same.

## Main definitions

* `Database.Reply.records`, `Database.Reply.named?`: the records in a reply, and the one that an
  identity names.
* `PinnedDesign.ShownBy`: a line that shows a record.
* `Arguments.Prints`: what the line of an identity has to be.
* `Arguments.printing`: what is printed place by place.
* `Report.Answered`: a run in which nothing fails up to the records.
* `Report.Shows`: a report with a line for each identity.

## Main statements

* `Lookup.collect_of_fetched`: an answered query settles all places.
* `Arguments.prints_line`: the line that is made for an identity is one that it has to be.
* `Report.prints_all_lines_or_none`: what every run prints.
-/

namespace DesignHistory

open Database (Reply Server)

/-- The records in the rows of a reply, none if one of them is no record.  They are read by the
client itself, so that each of them is a design and a version of one issue under its own name. -/
def Database.Reply.records : Reply → List PinnedDesign
  | .rows columns cells => (readJoined columns cells).toOption.getD []
  | .refused _ | .rejected _ => []

/-- Whether a record is the pair of the design and the version that a pin means. -/
def PinnedDesign.isPairOf (pin : Pin) (p : PinnedDesign) : Bool :=
  p.design.id == pin.designId && p.version.id == pin.versionId

/-- The last record in a reply whose design and version have the two ids that an identity denotes.
The ids are those of the two parts: that a record stores the name they make is not used here.  The
last one, because records are indexed in the order of the rows and a later one replaces an earlier
one. -/
def Database.Reply.named? (reply : Reply) (identity : String) : Option PinnedDesign :=
  (Pin.decode? identity).bind fun pin => (reply.records.filter (PinnedDesign.isPairOf pin)).getLast?

/-- The records in a reply belong together. -/
theorem Database.Reply.consistent_of_mem_records {reply : Reply} {p : PinnedDesign}
    (h : p ∈ reply.records) : p.Consistent := by
  cases reply with
  | rows columns cells =>
    cases hread : readJoined columns cells with
    | error e =>
      rw [records, hread] at h
      cases h
    | ok ps =>
      rw [records, hread] at h
      exact consistent_of_readJoined hread p h
  | refused message => cases h
  | rejected message => cases h

namespace PinnedDesign

theorem Consistent.isPairOf_eq {p : PinnedDesign} (hp : p.Consistent) (pin : Pin) :
    isPairOf pin p = (p.pin == pin) := by
  rw [hp.pin, isPairOf, Bool.eq_iff_iff, Bool.and_eq_true, beq_iff_eq, beq_iff_eq, beq_iff_eq,
    Pin.mk.injEq]

theorem lookup_eq_getLast? (pin : Pin) {records : List PinnedDesign}
    (h : ∀ p ∈ records, p.Consistent) :
    lookup pin records = (records.filter (isPairOf pin)).getLast? := by
  rw [List.filter_congr fun p hp => (h p hp).isPairOf_eq pin, lookup, ← List.head?_filter,
    List.filter_reverse, List.head?_reverse]

end PinnedDesign

/-- What an identity names in a reply is in the reply, and has the name. -/
theorem Database.Reply.of_named?_eq_some {reply : Reply} {identity : String} {p : PinnedDesign}
    (h : reply.named? identity = some p) :
    p ∈ reply.records ∧ Pin.decode? identity = some p.pin := by
  obtain ⟨pin, hpin, hlast⟩ := Option.bind_eq_some_iff.1 h
  obtain ⟨hmem, hname⟩ := List.mem_filter.1 (List.mem_of_getLast? hlast)
  rw [(consistent_of_mem_records hmem).isPairOf_eq, beq_iff_eq] at hname
  exact ⟨hmem, hname ▸ hpin⟩

namespace Lookup

/-- What is fetched for identities from a database that answers with a reply. -/
def fetched (identities : List String) (reply : Reply) : Except StoreError (List PinnedDesign) :=
  ((ofIdentities identities).plan.perform reply).result

/-- The records that are fetched for an identity that names a pin are those in the reply.  If no
identity names a pin nothing is fetched at all, and the reply does not matter. -/
theorem records_of_fetched {identities : List String} {reply : Reply}
    {records : List PinnedDesign} (h : fetched identities reply = .ok records) {identity : String}
    (hidentity : identity ∈ identities) {pin : Pin} (hpin : Pin.decode? identity = some pin) :
    records = reply.records := by
  have hbatch : ¬(ofIdentities identities).batch.isEmpty = true := fun hempty => by
    rw [(Loader.isEmpty_loadAll_iff.1 hempty).2 identity hidentity] at hpin
    cases hpin
  rw [fetched, plan, if_neg hbatch] at h
  cases reply with
  | rows columns rows =>
    unfold Database.Plan.perform Database.Request.perform Database.loadPinned at h
    cases hread : Database.readJoined columns rows with
    | error e =>
      simp only [hread] at h
      cases h
    | ok records' =>
      simp only [hread] at h
      obtain rfl := Except.ok.inj h
      rw [Reply.records, hread]
      rfl
  | refused message => cases h
  | rejected message => cases h

/-- Once something was fetched every place has a result, which is what its identity names in the
reply.  No place is left without an answer, whatever the reply leaves out. -/
theorem collect_of_fetched {identities : List String} {reply : Reply}
    {records : List PinnedDesign} (h : fetched identities reply = .ok records) :
    collect (ofIdentities identities).slots ((ofIdentities identities).batch.answers (.ok records))
      = .ok (identities.map reply.named?) := by
  have hissued : (ofIdentities identities).batch.Issued _ :=
    Loader.issued_loadAll (Batch.issued_empty 0) identities
  have hcollect := collect_label hissued (fun pin => PinnedDesign.lookup pin records)
    (Loader.slots_loadAll identities)
  refine hcollect.trans (congrArg Except.ok (List.map_congr_left fun identity hidentity => ?_))
  unfold Reply.named?
  cases hpin : Pin.decode? identity with
  | none => rfl
  | some pin =>
    rw [Option.bind_some, Option.bind_some, records_of_fetched h hidentity hpin]
    exact PinnedDesign.lookup_eq_getLast? pin fun _ hp => Reply.consistent_of_mem_records hp

end Lookup

/-! ### Lines that show a record -/

/-- The object that a line about a record has to be the text of: the ids of the two parts with a
point between them, and the parts member by member. -/
def PinnedDesign.spelledOut (p : PinnedDesign) : Json :=
  .object [
    ("id", .text (Decimal.ofInt64 p.design.id ++ "." ++ Decimal.ofInt64 p.version.id)),
    ("design", .object [("id", .int p.design.id.toInt),
      ("project_id", .int p.design.projectId.toInt), ("issue_id", .int p.design.issueId.toInt),
      ("filename", .text p.design.filename)]),
    ("version", .object [("id", .int p.version.id.toInt),
      ("issue_id", .int p.version.issueId.toInt), ("sha", .text p.version.sha),
      ("author_id", (p.version.authorId.map fun id => Json.int id.toInt).getD .null),
      ("created_at", .text p.version.createdAt.toRfc3339)])]

/-- **A line that shows a record.**  It is the text of an object with the name, the design and the
version of the record.  The object is `PinnedDesign.spelledOut`, which is not what the program
writes for a record by definition, so that a record that is written as anything else is not shown.
Each of the three members is read back as the part of the record, the version if it was made at an
instant that reads back, one of the years 0 to 9999. -/
structure PinnedDesign.ShownBy (p : PinnedDesign) (line : String) : Prop where
  ne_null : line ≠ "null"
  value : Json.ofText? line = some p.spelledOut
  pin : (Json.ofText? line).map (Json.field "id" Pin.ofJson) = some (.ok p.pin)
  design : (Json.ofText? line).map (Json.field "design" Design.ofJson) = some (.ok p.design)
  version : p.version.createdAt.Regular →
    (Json.ofText? line).map (Json.field "version" Version.ofJson) = some (.ok p.version)

namespace PinnedDesign

/-- What is written for a record that belongs together is spelled out. -/
theorem Consistent.toJson_eq {p : PinnedDesign} (hp : p.Consistent) : p.toJson = p.spelledOut := by
  have hpin : p.pin.encode
      = Decimal.ofInt64 p.design.id ++ "." ++ Decimal.ofInt64 p.version.id := by
    rw [hp.pin, Pin.encode]
  have hauthor : Json.ofOption Json.ofInt64 p.version.authorId
      = (p.version.authorId.map fun id => Json.int id.toInt).getD .null := by
    cases p.version.authorId <;> rfl
  rw [toJson, Pin.toJson, Version.toJson, hpin, hauthor]
  rfl

/-- A record is shown by the text of its value, if it has a name that an identity denotes. -/
theorem shownBy_render {p : PinnedDesign} (hp : p.Consistent) {identity : String}
    (hpin : Pin.decode? identity = some p.pin) : p.ShownBy (Json.render p.toJson) := by
  obtain ⟨hdesign, hversion, -⟩ := Pin.decode?_eq_some_iff.1 hpin
  have hread : Json.ofText? (Json.render p.toJson) = some p.toJson :=
    p.readable_toJson.ofText?_render
  have hnull : Json.ofText? "null" = some .null := Json.Readable.null.ofText?_render
  refine ⟨fun heq => ?_, ?_, ?_, ?_, fun hregular => ?_⟩
  · rw [heq, hnull] at hread
    cases hread
  · rw [hread, hp.toJson_eq]
  · rw [hread, Option.map_some, Json.field_eq_ok rfl (Pin.ofJson_toJson hdesign hversion)]
  · rw [hread, Option.map_some, Json.field_eq_ok rfl p.design.ofJson_toJson]
  · rw [hread, Option.map_some, Json.field_eq_ok rfl (Version.ofJson_toJson hregular)]

end PinnedDesign

/-! ### Lines -/

/-- What a place comes to among answers: nothing without a ticket, and a ticket that got no
answer is cancelled. -/
def awaited (answers : List (Ticket × LoadResult)) : Option Ticket → LoadResult
  | none => .ok none
  | some ticket => (answerTo ticket answers).getD (.error .cancelled)

namespace Arguments

/-- Whether a record is of the issue that is asked for, if one is. -/
def wants (args : Arguments) (p : PinnedDesign) : Bool :=
  args.issueId.all (· == p.design.issueId)

/-- The line for a result, which is `null` for a record that is not wanted. -/
def lineOf (args : Arguments) (result : Option PinnedDesign) : String :=
  (Json.ofOption PinnedDesign.toJson (result.filter args.wants)).render

/-- The line for an identity: what it names in a reply. -/
def line (args : Arguments) (reply : Reply) (identity : String) : String :=
  args.lineOf (reply.named? identity)

/-- **What the line of an identity has to be.**  It shows the record that the identity names in a
reply if that is wanted, and it is `null` otherwise: the identity is malformed, the reply has no
record of its ids, or the last one that it has is of another issue than the one asked for. -/
inductive Prints (args : Arguments) (reply : Reply) (identity : String) : String → Prop where
  | found {p : PinnedDesign} {line : String} (hnamed : reply.named? identity = some p)
    (hwants : args.wants p = true) (hline : p.ShownBy line) : Prints args reply identity line
  | absent (h : ∀ p, reply.named? identity = some p → args.wants p = false) :
    Prints args reply identity "null"

/-- The line that is made for an identity is one that it has to be. -/
theorem prints_line (args : Arguments) (reply : Reply) (identity : String) :
    args.Prints reply identity (args.line reply identity) := by
  unfold line lineOf
  cases hresult : (reply.named? identity).filter args.wants with
  | none =>
    refine .absent fun p hnamed => ?_
    rw [hnamed, Option.filter_eq_none_iff] at hresult
    exact Bool.eq_false_iff.2 (hresult p rfl)
  | some p =>
    obtain ⟨hnamed, hwants⟩ := Option.filter_eq_some_iff.1 hresult
    obtain ⟨hrecord, hpin⟩ := Reply.of_named?_eq_some hnamed
    have hconsistent := Reply.consistent_of_mem_records hrecord
    exact .found hnamed hwants (PinnedDesign.shownBy_render hconsistent hpin)

/-- What is printed if the places are looked at in turn and each result is printed at once, and the
error that puts an end to it.  Lines printed before the error stay printed, which is what a program
that fails halfway would leave behind. -/
def printing (args : Arguments) (answers : List (Ticket × LoadResult)) :
    List (Option Ticket) → List String × Option LoadError
  | [] => ([], none)
  | slot :: slots =>
    match awaited answers slot with
    | .error e => ([], some e)
    | .ok result =>
      (args.lineOf result :: (printing args answers slots).1, (printing args answers slots).2)

/-- If all places have a result, a line is printed for each. -/
theorem printing_of_collect (args : Arguments) {answers : List (Ticket × LoadResult)}
    {slots : List (Option Ticket)} {results : List (Option PinnedDesign)}
    (h : collect slots answers = .ok results) :
    args.printing answers slots = (results.map args.lineOf, none) := by
  have h : slots.mapM (awaited answers) = .ok results := h
  induction slots generalizing results with
  | nil =>
    cases h
    rfl
  | cons slot slots ih =>
    rw [List.mapM_cons] at h
    obtain ⟨result, hresult, h⟩ := exists_of_bind_eq_ok h
    obtain ⟨others, hothers, h⟩ := exists_of_bind_eq_ok h
    obtain rfl := Except.ok.inj h
    rw [printing, hresult, ih hothers hothers]
    rfl

end Arguments

/-! ### Runs -/

namespace Report

/-- **A report with a line for each identity.**  The results are what the identities name in the
reply as far as that is wanted, and the lines show them one by one in the order of the identities;
so there are as many lines as identities, and no line is about anything else. -/
structure Shows (r : Report) (args : Arguments) (reply : Reply) : Prop where
  exitCode : r.exitCode = 0
  results : r.results
    = args.identities.map fun identity => (reply.named? identity).filter args.wants
  lines : List.Forall₂ (args.Prints reply) args.identities r.lines
  /-- Equal arguments have equal lines. -/
  congr : ∀ j k : Nat, args.identities[j]? = args.identities[k]? → r.lines[j]? = r.lines[k]?
  /-- What is printed was asked for. -/
  asked : ∀ p, some p ∈ r.results →
    p ∈ reply.records ∧ args.wants p = true
      ∧ ∃ identity ∈ args.identities, Pin.decode? identity = some p.pin

/-- The lines of a report with the wanted results are those that are made for the identities. -/
theorem lines_of_results {r : Report} {args : Arguments} {reply : Reply}
    (h : r.results
      = args.identities.map fun identity => (reply.named? identity).filter args.wants) :
    r.lines = args.identities.map (args.line reply) := by
  rw [lines, h, List.map_map]
  rfl

/-- A report with the results of all identities has a line for each.  What a single line shows has
been settled before, so only the list is left. -/
theorem shows_of_outcome {r : Report} {args : Arguments} {reply : Reply}
    (h : r.outcome
      = .ok (args.identities.map fun identity => (reply.named? identity).filter args.wants)) :
    r.Shows args reply := by
  have hresults : r.results
      = args.identities.map fun identity => (reply.named? identity).filter args.wants := by
    rw [results, h]
    rfl
  have hlines := lines_of_results hresults
  refine ⟨?_, hresults, ?_, ?_, ?_⟩
  · rw [exitCode, h]
  · rw [hlines, List.forall₂_map_right_iff, List.forall₂_same]
    exact fun identity _ => args.prints_line reply identity
  · intro j k hjk
    rw [hlines, List.getElem?_map, List.getElem?_map, hjk]
  · intro p hp
    rw [hresults] at hp
    obtain ⟨identity, hidentity, hp⟩ := List.mem_map.1 hp
    obtain ⟨hnamed, hwanted⟩ := Option.filter_eq_some_iff.1 hp
    obtain ⟨hrecord, hpin⟩ := Reply.of_named?_eq_some hnamed
    exact ⟨hrecord, hwanted, identity, hidentity, hpin⟩

/-- A report of an error has no line. -/
theorem lines_of_error {r : Report} {e : RunError} (h : r.outcome = .error e) :
    r.exitCode ≠ 0 ∧ r.lines = [] := by
  constructor
  · rw [exitCode, h]
    show e.exitCode ≠ 0
    unfold RunError.exitCode
    split <;> decide
  · rw [lines, results, h]
    rfl

/-- A connection fails with what is fetched, and otherwise gives all results.  There is no third
way: looking up the places cannot fail any more. -/
theorem outcome_ofConnection (args : Arguments) (filter : LogFilter) (options : Option String)
    (reply : Reply) :
    (ofConnection args filter options reply).outcome
      = match Lookup.fetched args.identities reply with
        | .error e => .error (.load (.fetch e))
        | .ok _ =>
          .ok (args.identities.map fun identity => (reply.named? identity).filter args.wants) := by
  unfold ofConnection
  cases hfetched : Lookup.fetched args.identities reply with
  | error e =>
    rw [Lookup.fetched] at hfetched
    simp only [hfetched, Lookup.results]
  | ok records =>
    have hcollect := Lookup.collect_of_fetched hfetched
    rw [Lookup.fetched] at hfetched
    simp only [hfetched, Lookup.results, hcollect, List.map_map]
    rfl

/-- A run in which the database answers: nothing fails before the lookup, and the lookup fetches
records.  Each field is one of the steps before the first line. -/
structure Answered (i : Invocation) (server : Server) (args : Arguments)
    (records : List PinnedDesign) : Prop where
  starts : i.canStart = true
  arguments : Arguments.parse i.arguments = .ok args
  connects : ∃ env settings, i.variables? = some env ∧ Settings.load i.document env = .ok settings
    ∧ (Database.connect env (settings.databaseUrl env) settings.database server).result = .ok ()
  fetched : Lookup.fetched args.identities server.reply = .ok records

/-- A run in which the database answers has the results of all identities. -/
theorem outcome_of_answered {i : Invocation} {server : Server} {args : Arguments}
    {records : List PinnedDesign} (h : Answered i server args records) :
    (ofRun i server).outcome = .ok (args.identities.map fun identity =>
      (server.reply.named? identity).filter args.wants) := by
  obtain ⟨hstarts, hargs, ⟨env, settings, henv, hsettings, hconnects⟩, hfetched⟩ := h
  have hconnection := outcome_ofConnection args (LogFilter.ofEnvironment env)
    (Database.connect env (settings.databaseUrl env) settings.database server).options server.reply
  rw [hfetched] at hconnection
  simp only [ofRun, hstarts, if_true, henv, ofVariables, hargs, hsettings, hconnects]
  exact hconnection

/-- A run fails, or the database answers in it.  The steps of the program are gone through once
here, in their order. -/
theorem fails_or_answered (i : Invocation) (server : Server) :
    (∃ e, (ofRun i server).outcome = .error e)
      ∨ ∃ args records, Answered i server args records := by
  unfold ofRun
  cases hstarts : i.canStart with
  | false => exact .inl ⟨_, rfl⟩
  | true =>
    cases henv : i.variables? with
    | none => exact .inl ⟨_, rfl⟩
    | some env =>
      simp only [ofVariables, if_true]
      cases hargs : Arguments.parse i.arguments with
      | error e => exact .inl ⟨_, rfl⟩
      | ok args =>
        cases hsettings : Settings.load i.document env with
        | error e => exact .inl ⟨_, rfl⟩
        | ok settings =>
          cases hconnects : (Database.connect env (settings.databaseUrl env) settings.database
              server).result with
          | error e =>
            simp only [hconnects]
            exact .inl ⟨_, rfl⟩
          | ok _ =>
            simp only [hconnects, outcome_ofConnection]
            cases hfetched : Lookup.fetched args.identities server.reply with
            | error e => exact .inl ⟨_, rfl⟩
            | ok records =>
              exact .inr ⟨args, records, hstarts, hargs,
                ⟨env, settings, henv, hsettings, hconnects⟩, hfetched⟩

/-- **All lines or none.** A run fails and prints nothing, or it prints one line for each identity
that the arguments spell.  Once the database has answered nothing fails any more: all lines are
there, also if each is printed as soon as its place is looked at. -/
theorem prints_all_lines_or_none (i : Invocation) (server : Server) :
    (((ofRun i server).exitCode ≠ 0 ∧ (ofRun i server).lines = [])
        ∨ ∃ items, Arguments.Spells i.arguments items
          ∧ (ofRun i server).Shows (Arguments.ofItems items) server.reply)
      ∧ (∀ line ∈ (ofRun i server).lines, Json.OneLine line)
      ∧ ∀ args records, Answered i server args records →
        (ofRun i server).Shows args server.reply
          ∧ args.printing ((Lookup.ofIdentities args.identities).batch.answers (.ok records))
              (Lookup.ofIdentities args.identities).slots = ((ofRun i server).lines, none) := by
  have hanswered : ∀ {args records}, Answered i server args records →
      (ofRun i server).Shows args server.reply :=
    fun h => shows_of_outcome (outcome_of_answered h)
  refine ⟨?_, ?_, fun args records h => ⟨hanswered h, ?_⟩⟩
  · obtain ⟨e, he⟩ | ⟨args, records, h⟩ := fails_or_answered i server
    · exact .inl (lines_of_error he)
    · obtain ⟨items, hspells, rfl, -⟩ := Arguments.parse_eq_ok_iff.1 h.arguments
      exact .inr ⟨items, hspells, hanswered h⟩
  · intro line hline
    obtain ⟨result, -, rfl⟩ := List.mem_map.1 hline
    exact Json.oneLine_render _
  · rw [Arguments.printing_of_collect args (Lookup.collect_of_fetched h.fetched), List.map_map,
      lines_of_results (hanswered h).results]
    rfl

/-- A reply with a record that the last one of its ids replaces, one of another issue and one that
nobody asks for. -/
def mixedReply : Reply :=
  .rows Database.joinedColumns (([("old.png", 1, 7), ("other.png", 3, 8), ("unasked.png", 5, 7),
      ("new.png", 1, 7)] : List (String × DesignId × IssueId)).map fun (filename, id, issueId) =>
    ((⟨id, 1, issueId, filename⟩ : Design).row
      ++ (⟨2, issueId, "a", none, ⟨0, 0⟩⟩ : Version).row).map Prod.snd)

/-- Arguments with an issue between two equal identities, one that names no pin, and one that names
a design of another issue. -/
def mixedInvocation : Invocation := { arguments := ["1.2", "--issue", "7", "x", "3.2", "1.2"] }

/-- What the arguments of `mixedInvocation` are read as. -/
def mixedArguments : Arguments := ⟨some 7, ["1.2", "x", "3.2", "1.2"]⟩

/-- The line about the last record of design 1 and version 2 in `mixedReply`. -/
def newLine : String :=
  "\x7b\"id\":\"1.2\","
    ++ "\"design\":\x7b\"id\":1,\"project_id\":1,\"issue_id\":7,\"filename\":\"new.png\"\x7d,"
    ++ "\"version\":\x7b\"id\":2,\"issue_id\":7,\"sha\":\"a\",\"author_id\":null,"
    ++ "\"created_at\":\"1970-01-01T00:00:00Z\"\x7d\x7d"

/-- The lines for two equal identities, with one that names no pin and one of another issue between
them. -/
theorem prints_all_lines_or_none_on_mixedReply :
    Answered mixedInvocation { reply := mixedReply } mixedArguments mixedReply.records
      ∧ (ofRun mixedInvocation { reply := mixedReply }).Shows mixedArguments mixedReply
      ∧ (ofRun mixedInvocation { reply := mixedReply }).lines
        = [newLine, "null", "null", newLine] := by
  have hanswered : Answered mixedInvocation { reply := mixedReply } mixedArguments
      mixedReply.records :=
    ⟨by decide +kernel, by decide +kernel, ⟨_, _, rfl, rfl, by decide +kernel⟩, by decide +kernel⟩
  exact ⟨hanswered,
    ((prints_all_lines_or_none mixedInvocation { reply := mixedReply }).2.2 _ _ hanswered).1,
    by decide +kernel⟩

end Report

end DesignHistory
