import DesignHistory.Json.Records
import DesignHistory.Settings

/-!
# Settings as JSON

The settings of a database connection are written with all three members.  Read on
their own they have to be of the right kinds already, unlike the layers that
settings are put together from.

## Main definitions

* `Settings.toJson`, `DatabaseSettings.toJson`: writing.
* `DatabaseSettings.ofJson`: reading.
-/

namespace DesignHistory

open Json (Read optionalField)

namespace Json

/-- A number of 32 bits. -/
def readUInt32 (j : Json) : Read UInt32 :=
  match j with
  | .int n => if 0 ≤ n ∧ n ≤ Decimal.maxUInt32 then .ok (UInt32.ofNat n.toNat) else .error .shape
  | _ => .error .shape

/-- A number of 64 bits without a sign. -/
def readUInt64 (j : Json) : Read UInt64 :=
  match j with
  | .int n => if 0 ≤ n ∧ n ≤ Decimal.maxUInt64 then .ok (UInt64.ofNat n.toNat) else .error .shape
  | _ => .error .shape

end Json

/-- The settings of a connection as a value.  An absent setting is written as `null`, so that the
object always has the same members. -/
def DatabaseSettings.toJson (s : DatabaseSettings) : Json :=
  .object [
    ("connection_string", Json.ofOption Json.text s.connectionString),
    ("max_connections", Json.ofOption (fun n => .int n.toNat) s.maxConnections),
    ("statement_timeout_ms", Json.ofOption (fun n => .int n.toNat) s.statementTimeoutMs)]

/-- The settings of a connection that a value denotes. -/
def DatabaseSettings.ofJson (j : Json) : Read DatabaseSettings := do
  let j ← Json.readObject j
  return {
    connectionString := ← optionalField "connection_string" Json.readText j
    maxConnections := ← optionalField "max_connections" Json.readUInt32 j
    statementTimeoutMs := ← optionalField "statement_timeout_ms" Json.readUInt64 j }

/-- Settings as a value. -/
def Settings.toJson (s : Settings) : Json := .object [("database", s.database.toJson)]

end DesignHistory
