import DesignHistory.Lookup
import DesignHistory.PinnedDesign

/-!
# Failures

Everything that can go wrong, by cause.  The wording of each cause stands in one
place, its `message`.

## Main definitions

* `StoreError`: a store could not answer.
* `ResolveError`: an operation was refused, or its store could not answer.
* `LoadError`: a lookup that was scheduled in a batch did not get its answer.
-/

namespace DesignHistory

/-- What a statement, or a step before the first one, was for.  The wording of a failure depends on
this alone, and not on what the database said. -/
inductive Purpose where
  | address
  | connection
  | migration
  | issue
  | design
  | designByFilename
  | designsOfIssue
  | designsByReference
  | version
  | versionsOfIssue
  | versionBySha
  | actionsOfVersion
  | countPinned
  | loadPinned
  | visibleDesigns
  | changedDesigns
deriving DecidableEq, Repr

/-- The wording of a failure, by what it kept from happening. -/
def Purpose.failure : Purpose → String
  | .address => "Invalid PostgreSQL connection string"
  | .connection => "Failed to create PostgreSQL connection pool"
  | .migration => "Failed to run database migrations"
  | .issue => "Failed to fetch issue"
  | .design => "Failed to fetch design"
  | .designByFilename => "Failed to fetch design by filename"
  | .designsOfIssue => "Failed to list designs for issue"
  | .designsByReference => "Failed to fetch designs by reference"
  | .version => "Failed to fetch version"
  | .versionsOfIssue => "Failed to list versions for issue"
  | .versionBySha => "Failed to fetch version by sha"
  | .actionsOfVersion => "Failed to fetch actions for version"
  | .countPinned => "Failed to count designs at versions"
  | .loadPinned => "Failed to load designs at versions"
  | .visibleDesigns => "Failed to fetch designs visible at version"
  | .changedDesigns => "Failed to fetch designs changed in version"

/-- Why a field of a row could not be read. -/
inductive FieldError where
  | missing
  | unexpectedNull
  | wrongType
deriving DecidableEq, Repr

/-- The wording of a field error. -/
def FieldError.message : FieldError → String
  | .missing => "no such column in the row"
  | .unexpectedNull => "unexpected null in a row"
  | .wrongType => "unexpected type in a row"

/-- **Why a store could not answer.** Records in memory know only the failure that was armed.  The
other cases are those of a database, from a statement that was refused down to a field of a row that
is not what it should be. -/
inductive StoreError where
  /-- The failure that was armed beforehand. -/
  | injected (message : String)
  /-- A step did not succeed; `cause` is what the database said, if it said anything. -/
  | failed (purpose : Purpose) (cause : Option String)
  | field (error : FieldError)
  | unknownEvent (code : Int16)
  | missingDesignColumn (name : String)
  | missingVersionColumn (name : String)
  | missingIdColumns
  | mismatch (m : IssueMismatch)
deriving DecidableEq, Repr

/-- The wording of a store error.  A failure of the database is worded by what it kept from
happening; its cause is not part of that. -/
def StoreError.message : StoreError → String
  | .injected message => message
  | .failed purpose _ => purpose.failure
  | .field error => error.message
  | .unknownEvent code => "Unknown design event code " ++ Decimal.ofInt code.toInt
  | .missingDesignColumn name => "Joined row has no design column '" ++ name ++ "'"
  | .missingVersionColumn name => "Joined row has no version column '" ++ name ++ "'"
  | .missingIdColumns => "Joined row does not contain both tables' id columns"
  | .mismatch m => m.message

/-- What the database itself said. -/
def StoreError.cause : StoreError → Option String
  | .failed _ cause => cause
  | _ => none

/-- **Why an operation did not give a result.** That something does not exist is no such reason: it
is an empty result.  The cases are texts that are no pins where one is needed, pairs of two issues,
lookups without exactly one key, and a store that cannot answer. -/
inductive ResolveError where
  | malformed (m : Pin.Malformed)
  | mismatch (m : IssueMismatch)
  | lookup (e : LookupError)
  | store (e : StoreError)
deriving DecidableEq, Repr

/-- The wording of a resolve error. -/
def ResolveError.message : ResolveError → String
  | .malformed m => m.message
  | .mismatch m => m.message
  | .lookup e => e.message
  | .store e => e.message

/-- Why a scheduled lookup has no answer.  A failed query is shared by all lookups of its batch, and
a batch that goes away before its dispatch takes all of them with it. -/
inductive LoadError where
  /-- The one query of the batch failed. -/
  | fetch (e : StoreError)
  /-- The batch went away before it was dispatched. -/
  | cancelled
deriving DecidableEq, Repr

/-- The wording of a load error. -/
def LoadError.message : LoadError → String
  | .fetch e => "batch fetch failed: " ++ e.message
  | .cancelled => "batch was cancelled before the lookup resolved"

end DesignHistory
