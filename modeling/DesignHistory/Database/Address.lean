import DesignHistory.Database.Url
import DesignHistory.Environment

/-!
# Addresses of databases

A database is addressed by a URL.  What the URL leaves out is taken from variables
of the environment, and from defaults.

## Main definitions

* `Address`: where a database listens, and what a connection to it asks for.
* `Address.ofEnvironment`: the address without a URL.
* `Address.ofText?`: the address that a URL describes.

The user, the password and a path to a socket have to decode to valid UTF-8, the name
of the database is taken as it stands, and some parameters of the query restrict their
values; a text that breaks one of these rules is no address, even if it is a URL.
-/

namespace DesignHistory.Database

open Text (Percent.decode? Percent.bytes)

/-- How much encryption a connection asks for.  A server without encryption is reached by those
modes only that do not insist on it. -/
inductive SslMode where
  | disable
  | allow
  | prefer
  | require
  | verifyCa
  | verifyFull
deriving DecidableEq, Repr

/-- The mode of a name, in whatever case it is written. -/
def SslMode.ofName? (name : String) : Option SslMode :=
  let name := name.toLower
  if name = "disable" then some .disable
  else if name = "allow" then some .allow
  else if name = "prefer" then some .prefer
  else if name = "require" then some .require
  else if name = "verify-ca" then some .verifyCa
  else if name = "verify-full" then some .verifyFull
  else none

/-- Whether a connection without encryption is refused. -/
def SslMode.isStrict : SslMode → Bool
  | .disable | .allow | .prefer => false
  | .require | .verifyCa | .verifyFull => true

/-- Where a database listens, and what a connection to it asks for.  The defaults are those of a
machine on which nothing is configured. -/
structure Address where
  /-- The name of a machine, or a path to a socket, which starts with a slash. -/
  host : String := "localhost"
  port : Nat := 5432
  user : Option String := none
  password : Option String := none
  database : Option String := none
  sslMode : SslMode := .prefer
  /-- Options for the start of a connection. -/
  options : Option String := none
deriving DecidableEq, Repr

namespace Address

/-- The number of a port. -/
def readPort? (s : String) : Option Nat := (Decimal.readNat 65535 s).toOption

/-- The address without a URL.  A variable that cannot be read, such as a port that is no number,
counts as if it were not set. -/
def ofEnvironment (env : Environment) : Address where
  host := ((env.get? "PGHOSTADDR").or (env.get? "PGHOST")).getD "localhost"
  port := ((env.get? "PGPORT").bind readPort?).getD 5432
  user := env.get? "PGUSER"
  password := env.get? "PGPASSWORD"
  database := env.get? "PGDATABASE"
  sslMode := ((env.get? "PGSSLMODE").bind SslMode.ofName?).getD .prefer
  options := env.get? "PGOPTIONS"

/-- The address with one more option for the start, behind those that it has. -/
def addOption (a : Address) (option : String) : Address :=
  { a with options := some ((a.options.map (· ++ " ")).getD "" ++ option) }

/-- The address with an assignment among the options for the start. -/
def assign (a : Address) (name value : String) : Address :=
  let assignment := "-c " ++ name ++ "=" ++ value
  if a.options = some "" then { a with options := some assignment } else a.addOption assignment

/-- The name in brackets of a parameter that assigns an option. -/
def assigned? (parameter : String) : Option String :=
  let start := "options[".toList
  let cs := parameter.toList
  if start.isPrefixOf cs && cs.getLast? == some ']' then
    some (String.ofList (cs.drop start.length).dropLast)
  else none

/-- The address with a parameter of the query; parameters with other names do not
count. -/
def withParameter? (a : Address) (name value : String) : Option Address :=
  match name with
  | "sslmode" | "ssl-mode" => (SslMode.ofName? value).map fun sslMode => { a with sslMode }
  | "statement-cache-capacity" => (Decimal.readNat Decimal.maxUInt64 value).toOption.map fun _ => a
  | "host" => some { a with host := value }
  | "hostaddr" => if IpAddress.isAddress value.toList then some { a with host := value } else none
  | "port" => (readPort? value).map fun port => { a with port }
  | "dbname" => some { a with database := some value }
  | "user" => some { a with user := some value }
  | "password" => some { a with password := some value }
  | "options" => some (a.addOption value)
  | name =>
    match assigned? name with
    | some option => some (a.assign option value)
    | none => some a

/-- The text that a part of a URL stands for, or a default if the part is empty. -/
def decodeOr? (part : List Char) (default : Option String) : Option (Option String) :=
  if part.isEmpty then some default else (Percent.decode? part).map some

/-- A part of a URL as it stands, or a default if the part is empty. -/
def plainOr (part : List Char) (default : Option String) : Option String :=
  if part.isEmpty then default else some (String.ofList part)

/-- The host that a part of a URL stands for: a path to a socket is decoded, a name
is taken as it is. -/
def hostOr? (part : List Char) (default : String) : Option String :=
  if part.isEmpty then some default
  else if (Percent.bytes part).head? = some 47 then Percent.decode? part
  else some (String.ofList part)

/-- The address that a URL describes, on top of another one. -/
def ofUrl? (a : Address) (url : Url) : Option Address := do
  let a := { a with
    host := ← hostOr? url.host a.host
    port := url.port.getD a.port
    user := ← decodeOr? url.user a.user
    password := ← decodeOr? url.password a.password
    database := plainOr (url.path.dropWhile (· == '/')) a.database }
  (Text.Percent.pairs url.query).foldlM (fun a (name, value) => a.withParameter? name value) a

/-- The address that a text describes, on top of what the environment says.  What the text leaves
out is taken from the environment, and what neither has from the defaults. -/
def ofText? (env : Environment) (s : String) : Option Address := do
  (ofEnvironment env).ofUrl? (← Url.ofText? s)

end Address

end DesignHistory.Database
