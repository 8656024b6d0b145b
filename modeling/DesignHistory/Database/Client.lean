import DesignHistory.Answer
import DesignHistory.Database.Address
import DesignHistory.Database.Reply
import DesignHistory.Settings
import DesignHistory.Sql.Printer
import DesignHistory.Sql.Statements

/-!
# Asking a database

The questions of the store, put to a relational database.  A call sends at most
one statement; what comes back decides the result.

## Main definitions

* `Database.Request`: a query and how its rows are read.
* `Database.Exchange`: a result, what was sent, and the count of queries.
* `Database.Request.perform`: the exchange for a request and a reply.
* `Database.Call`: the calls by name, `Database.Call.plan`, their requests.
* `Database.connect`: the step before the first call.

A statement that is refused is not counted.  One that succeeds is counted even if
its rows cannot be read afterwards, except that the number in the reply to a
count belongs to the statement itself.
-/

namespace DesignHistory.Database

open Sql

/-! ### Requests -/

/-- A query with the way in which its rows are read.  The purpose is what an error says was being
done; it has no influence on what is sent. -/
structure Request (α : Type) where
  query : Query
  purpose : Purpose
  read : List String → List (List Cell) → Read α
  /-- Whether rows that cannot be read count as a failure of the statement. -/
  scalar : Bool := false

/-- A call on the database: settled without it, or one request.  There is no third case, which is
why no call can send more than one statement. -/
inductive Plan (α : Type) where
  | settled (a : α)
  | request (r : Request α)

/-- What becomes of a call.  What was sent, what was carried out and what was counted are three
fields, because they differ: a statement that is refused was sent and is not counted. -/
structure Exchange (α : Type) where
  result : Read α
  /-- The statements sent. -/
  sent : List Query := []
  /-- The parameters of the statements that were carried out. -/
  bound : List (List Parameter) := []
  /-- How many queries were counted. -/
  counted : Nat := 0

/-- **Sends a request to a database that answers with a reply.** The query is counted after the
statement has come back and before its rows are read, except that for a count the one row belongs to
the statement. -/
def Request.perform {α : Type} (r : Request α) (reply : Reply) : Exchange α :=
  match reply with
  | .rejected message =>
    { result := .error (.failed .connection (some message)) }
  | .refused message =>
    { result := .error (.failed r.purpose (some message)), sent := [r.query] }
  | .rows columns rows =>
    match r.read columns rows with
    | .ok a =>
      { result := .ok a, sent := [r.query], bound := [r.query.parameters], counted := 1 }
    | .error e =>
      { result := .error (if r.scalar then .failed r.purpose none else e)
        sent := [r.query]
        bound := [r.query.parameters]
        counted := if r.scalar then 0 else 1 }

/-- Carries a call out on a database that answers with a reply.  A settled call leaves no trace:
nothing is sent and nothing counted. -/
def Plan.perform {α : Type} (p : Plan α) (reply : Reply) : Exchange α :=
  match p with
  | .settled a => { result := .ok a }
  | .request r => r.perform reply

/-- The request with its result changed. -/
def Request.map {α β : Type} (f : α → β) (r : Request α) : Request β :=
  { r with read := fun columns rows => (r.read columns rows).map f }

/-- The call with its result changed. -/
def Plan.map {α β : Type} (f : α → β) : Plan α → Plan β
  | .settled a => .settled (f a)
  | .request r => .request (r.map f)

/-! ### Reading replies -/

/-- A record from the first row, if there is a row. -/
def readFirst {α : Type} (read : Row → Read α) (columns : List String)
    (rows : List (List Cell)) : Read (Option α) :=
  match rowsOf columns rows with
  | [] => .ok none
  | row :: _ => (read row).map some

/-- A record from every row. -/
def readAll {α : Type} (read : Row → Read α) (columns : List String)
    (rows : List (List Cell)) : Read (List α) :=
  (rowsOf columns rows).mapM read

/-- The number in the first column of the first row. -/
def readCount (columns : List String) (rows : List (List Cell)) : Read Int64 :=
  match rowsOf columns rows with
  | [] => .error (.field .missing)
  | row :: _ => int8 (row.at 0)

/-- A request for a record from the first row. -/
def firstRow {α : Type} (query : Query) (purpose : Purpose) (read : Row → Read α) :
    Request (Option α) where
  query := query
  purpose := purpose
  read := readFirst read

/-- A request for a record from every row. -/
def allRows {α : Type} (query : Query) (purpose : Purpose) (read : Row → Read α) :
    Request (List α) where
  query := query
  purpose := purpose
  read := readAll read

/-! ### Calls -/

/-- The number of selected pairs. -/
def countPinned (s : Selection) : Request Int64 where
  query := { statement := s.statement .count }
  purpose := .countPinned
  read := readCount
  scalar := true

/-- The selected pairs. -/
def loadPinned (s : Selection) : Request (List PinnedDesign) where
  query := { statement := s.statement .records }
  purpose := .loadPinned
  read := readJoined

/-- What can be asked of a database.  The calls are those that a store answers as well, one for one,
so that the two can be compared. -/
inductive Call where
  | findIssue (id : IssueId)
  | findDesign (issueId : IssueId) (id : DesignId)
  | findDesignByFilename (issueId : IssueId) (filename : String)
  | designsOfIssue (issueId : IssueId)
  | designsByReference (references : List DesignReference)
  | findVersion (id : VersionId)
  | versionsOfIssue (issueId : IssueId)
  | versionBySha (issueId : IssueId) (sha : String)
  | actionsOfVersion (versionId : VersionId)
  | count (s : Selection)
  | isEmpty (s : Selection)
  | records (s : Selection)
  | visibleDesigns (v : Version) (filter : DesignFilter)
  | changedDesigns (v : Version)

/-- How a call is carried out.  No reference and no requested pin, no statement: such a call is
settled, with the answer that no row would give. -/
def Call.plan : Call → Plan Answer
  | .findIssue id =>
    .request ((firstRow (Sql.findIssue id) .issue readIssue).map .issue)
  | .findDesign issueId id =>
    .request ((firstRow (Sql.findDesign issueId id) .design readDesign).map .design)
  | .findDesignByFilename issueId filename =>
    .request ((firstRow (Sql.findDesignByFilename issueId filename) .designByFilename
      readDesign).map .design)
  | .designsOfIssue issueId =>
    .request ((allRows (Sql.designsOfIssue issueId) .designsOfIssue readDesign).map .designs)
  | .designsByReference references =>
    if references.isEmpty then .settled (.designs [])
    else .request ((allRows (Sql.designsByReference references) .designsByReference
      readDesign).map .designs)
  | .findVersion id =>
    .request ((firstRow (Sql.findVersion id) .version readVersion).map .version)
  | .versionsOfIssue issueId =>
    .request ((allRows (Sql.versionsOfIssue issueId) .versionsOfIssue readVersion).map .versions)
  | .versionBySha issueId sha =>
    .request ((firstRow (Sql.versionBySha issueId sha) .versionBySha readVersion).map .version)
  | .actionsOfVersion versionId =>
    .request ((allRows (Sql.actionsOfVersion versionId) .actionsOfVersion readAction).map .actions)
  | .count s =>
    if s.matchesNothing then .settled (.number 0)
    else .request ((countPinned s).map fun n => .number n.toInt)
  | .isEmpty s =>
    if s.matchesNothing then .settled (.flag true)
    else .request ((countPinned s).map fun n => .flag (n == 0))
  | .records s =>
    if s.matchesNothing then .settled (.pinnedList [])
    else .request ((loadPinned s).map .pinnedList)
  | .visibleDesigns v filter =>
    .request ((allRows (Sql.visibleDesigns v filter) .visibleDesigns readDesign).map .designs)
  | .changedDesigns v =>
    .request ((allRows (Sql.changedDesigns v) .changedDesigns readDesign).map .designs)

/-! ### Connecting -/

/-- A database that listens at one place, without encryption, and always gives the same reply.  The
reply is arbitrary: nothing says that it fits the statement it answers. -/
structure Server where
  host : String := "localhost"
  port : Nat := 5432
  reply : Reply := .rows [] []

/-- Whether a connection reaches a server. -/
def Address.reaches (a : Address) (server : Server) : Bool :=
  a.host == server.host && a.port == server.port && !a.sslMode.isStrict

/-- An address with the settings that a connection asks for at its start. -/
def Address.withSettings (a : Address) (settings : DatabaseSettings) : Address :=
  match settings.statementTimeoutMs with
  | some ms => a.assign "statement_timeout" (Decimal.ofNat ms.toNat)
  | none => a

/-- An attempt to connect. -/
structure Connecting where
  result : Read Unit
  /-- The options that the server got, if it was reached and there are any. -/
  options : Option String

/-- Connects to the database at an address.  With no room for a connection there is never one.  A
connection that the server refuses fails with the message of the server, before any statement is
sent. -/
def connect (env : Environment) (url : String) (settings : DatabaseSettings)
    (server : Server) : Connecting :=
  match Address.ofText? env url with
  | none => { result := .error (.failed .address none), options := none }
  | some address =>
    if address.reaches server && settings.maxConnections != some 0 then
      { options := (address.withSettings settings).options
        result := match server.reply with
          | .rejected message => .error (.failed .connection (some message))
          | _ => .ok () }
    else { result := .error (.failed .connection none), options := none }

/-- Brings the schema up to date; a refused statement fails it. -/
def migrate (reply : Reply) : Read Unit :=
  match reply with
  | .refused message => .error (.failed .migration (some message))
  | _ => .ok ()

end DesignHistory.Database
