import DesignHistory.CommandLine.Arguments
import DesignHistory.CommandLine.LogFilter
import DesignHistory.Database.Client
import DesignHistory.Json.Printer
import DesignHistory.Json.Records
import DesignHistory.Loader
import DesignHistory.Settings.VariableFile

/-!
# The command line

The program resolves the identities that are its arguments with one query, and
prints one line for each: the pinned design as JSON, or `null` for an identity
that names none.  With an issue given, designs of other issues count as absent.

## Main definitions

* `Invocation`: the arguments and everything around the program that it reads.
* `Lookup`: what is asked of the database, as a batch and the places in it.
* `Report`: what a run of the program amounts to.
* `Report.ofRun`: the report for an invocation and a database.

Either all lines are there or none is: what can fail does so before the first
line is printed.
-/

namespace DesignHistory

open Database (Reply Server)

/-- What the program is given.  Everything that a run depends on besides the database is here, so
that a run is a function of the invocation and the server. -/
structure Invocation where
  arguments : List String
  environment : Environment := []
  /-- The content of the file of variables, if there is one. -/
  variableFile : Option String := none
  /-- The document with settings, if there is one. -/
  document : Option Json := none

/-- Whether the program can start in an environment: if a number of threads is asked for,
it has to be one that is not zero. -/
def Invocation.canStart (i : Invocation) : Bool :=
  (i.environment.get? "TOKIO_WORKER_THREADS").all fun s =>
    (Decimal.readNat Decimal.maxUInt64 s).toOption.any (0 < ·)

/-- The environment with the variables of the file, none if one cannot be set. -/
def Invocation.variables? (i : Invocation) : Option Environment :=
  match i.variableFile with
  | some content => VariableFile.load i.environment content
  | none => some i.environment

/-- Why a run gave no lines.  The cases are in the order in which a run can meet them: a later one
presupposes that everything before it went well. -/
inductive RunError where
  /-- The program cannot start in the environment, or the environment cannot be set up. -/
  | environment
  | arguments (e : ArgumentError)
  | settings (e : SettingsError)
  | store (e : StoreError)
  | load (e : LoadError)
deriving DecidableEq, Repr

/-- Whether the program cannot even report an error. -/
def RunError.isFatal : RunError → Bool
  | .environment | .settings .endless => true
  | _ => false

/-- The wording of an error. -/
def RunError.message : RunError → String
  | .environment => "a variable is not usable"
  | .arguments e => e.message
  | .settings e => e.message
  | .store e => e.message
  | .load e => e.message

/-- The exit code of an error. -/
def RunError.exitCode (e : RunError) : Nat := if e.isFatal then 101 else 1

/-! ### Looking up the identities -/

/-- Identities scheduled in a batch.  A malformed identity takes a place of its own and no ticket,
so that the results can be put back in the order of the arguments. -/
structure Lookup where
  /-- The ticket of each identity, none for a malformed one. -/
  slots : List (Option Ticket)
  batch : Batch

/-- Schedules identities. -/
def Lookup.ofIdentities (identities : List String) : Lookup :=
  let (slots, loader, _) := ({} : Loader).loadAll 0 identities
  { slots, batch := loader.take.1 }

/-- The request for the records of a batch; none for an empty one. -/
def Lookup.plan (l : Lookup) : Database.Plan (List PinnedDesign) :=
  if l.batch.isEmpty then .settled [] else .request (Database.loadPinned l.batch.selection)

/-- The record of each identity, from the records that were fetched. -/
def Lookup.results (l : Lookup) (fetched : Except StoreError (List PinnedDesign)) :
    Except LoadError (List (Option PinnedDesign)) :=
  match fetched with
  | .error e => .error (.fetch e)
  | .ok records => collect l.slots (l.batch.answers (.ok records))

/-! ### Reports -/

/-- What a run of the program amounts to.  Output, messages, exit code and what was sent are all
derived from these fields, and from nothing else. -/
structure Report where
  /-- The results in the order of the identities, or why there are none. -/
  outcome : Except RunError (List (Option PinnedDesign))
  /-- The messages about the run. -/
  log : List String := []
  /-- Whether messages are written in colours, with marks around their parts. -/
  isColored : Bool := false
  /-- The statements sent to the database. -/
  sent : List Sql.Query := []
  /-- The startup options of the connection. -/
  options : Option String := none

namespace Report

/-- The results that are printed. -/
def results (r : Report) : List (Option PinnedDesign) := r.outcome.toOption.getD []

/-- The lines that are printed. -/
def lines (r : Report) : List String :=
  r.results.map fun result => (Json.ofOption PinnedDesign.toJson result).render

/-- The message of the error, if there is one that can be reported. -/
def error (r : Report) : Option String :=
  match r.outcome with
  | .ok _ => none
  | .error e => if e.isFatal then none else some e.message

/-- The exit code: zero if there is no error. -/
def exitCode (r : Report) : Nat :=
  match r.outcome with
  | .ok _ => 0
  | .error e => e.exitCode

/-- The messages that can be read off the log as plain lines. -/
def plainLog (r : Report) : List String := if r.isColored then [] else r.log

/-- The name under which the program logs. -/
def logTarget : String := "dav"

/-- The message about a run that succeeded. -/
def summary (identities queries : Nat) : String :=
  "Resolved " ++ Decimal.ofNat identities ++ " identities with " ++ Decimal.ofNat queries
    ++ " queries"

/-- Whether an environment asks for messages in colours. -/
def wantsColors (env : Environment) : Bool := env.get? "RUST_LOG_STYLE" == some "always"

/-- The report of a connection that answers with a reply.  All identities go into one batch, so that
there is one statement at most; what is not wanted is left out only afterwards. -/
def ofConnection (args : Arguments) (filter : LogFilter) (options : Option String)
    (reply : Reply) : Report :=
  let lookup := Lookup.ofIdentities args.identities
  let exchange := lookup.plan.perform reply
  match lookup.results exchange.result with
  | .error e => { outcome := .error (.load e), sent := exchange.sent, options }
  | .ok results =>
    let wanted := fun p : PinnedDesign => args.issueId.all (· == p.design.issueId)
    let message := summary args.identities.length exchange.counted
    { outcome := .ok (results.map fun result => result.filter wanted)
      log := if filter.shows .info logTarget message then [message] else []
      sent := exchange.sent
      options }

/-- The report of a run in an environment: arguments first, then settings, then the
connection. -/
def ofVariables (i : Invocation) (env : Environment) (server : Server) : Report :=
  match Arguments.parse i.arguments with
  | .error e => { outcome := .error (.arguments e) }
  | .ok args =>
    match Settings.load i.document env with
    | .error e => { outcome := .error (.settings e) }
    | .ok settings =>
      let connecting := Database.connect env (settings.databaseUrl env) settings.database server
      match connecting.result with
      | .error e => { outcome := .error (.store e), options := connecting.options }
      | .ok () =>
        { ofConnection args (LogFilter.ofEnvironment env) connecting.options server.reply with
          isColored := wantsColors env }

/-- **The report of a run.** The steps come in the order in which the program takes them, and the
first one that fails is what the report is about: nothing is sent before the settings are
complete. -/
def ofRun (i : Invocation) (server : Server) : Report :=
  if i.canStart then
    match i.variables? with
    | none => { outcome := .error .environment }
    | some env => ofVariables i env server
  else { outcome := .error .environment }

end Report

end DesignHistory
