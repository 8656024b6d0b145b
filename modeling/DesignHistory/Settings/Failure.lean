import DesignHistory.Binary64
import DesignHistory.Json
import DesignHistory.Text.Quoted

/-!
# Settings that cannot be read

A value of the settings may not be of the kind that is needed.  The message says
what stands there, what was expected, where it is, and where it comes from.

## Main definitions

* `Settings.Found`: what stands in the place of a setting.
* `Settings.Mismatch`: a value that is not of the kind that is needed.
* `SettingsError`: why settings cannot be read.
-/

namespace DesignHistory

namespace Settings

/-- What stands in the place of a setting.  It is what a message shows, and so keeps the number or
the text itself where there is one. -/
inductive Found where
  | nothing
  | flag (b : Bool)
  /-- A number that may be negative. -/
  | signed (n : Int)
  /-- A number that cannot be negative. -/
  | unsigned (n : Nat)
  | real (x : Binary64)
  | text (s : String)
  | list
  | table
deriving DecidableEq, Repr

/-- What a value is. -/
def Found.ofJson : Json → Found
  | .null => nothing
  | .bool b => flag b
  | .int n => signed n
  | .real x => real x
  | .text s => text s
  | .array _ => list
  | .object _ => table

/-- The description of what was found. -/
def Found.description : Found → String
  | nothing => "unit value"
  | flag b => "boolean `" ++ (if b then "true" else "false") ++ "`"
  | signed n => "64-bit integer `" ++ Decimal.ofInt n ++ "`"
  | unsigned n => "64-bit unsigned integer `" ++ Decimal.ofNat n ++ "`"
  | real x => "floating point `" ++ x.text ++ "`"
  | text s => "string " ++ Text.quote s
  | list => "sequence"
  | table => "map"

/-- The layers that values come from. -/
inductive Source where
  | document
  | environment
deriving DecidableEq, Repr

/-- The name of a layer. -/
def Source.name : Source → String
  | document => "config.json"
  | environment => "the environment"

/-- A value that is not of the kind that is needed.  Numbers pass through several representations,
and whether the value itself or what was made of it is at fault makes a difference to the
wording. -/
structure Mismatch where
  found : Found
  expected : String
  /-- Whether the value itself is at fault, not a number that was made of it. -/
  isOwn : Bool := true
deriving DecidableEq, Repr

end Settings

open Settings (Found Source Mismatch)

/-- Why settings cannot be read.  Of several misfits the first one in the order of the fields is
reported, with the layer that it comes from. -/
inductive SettingsError where
  /-- The whole document, or the part about the database, is of another kind. -/
  | shape (found : Found) (expected : String)
  /-- A setting is of another kind. -/
  | setting (mismatch : Mismatch) (path : String) (source : Option Source)
  /-- A list ends before it has all settings. -/
  | short (length : Nat)
  /-- There is no part about the database. -/
  | absent
  /-- A list would need more items than there can be. -/
  | endless
deriving DecidableEq, Repr

/-- The wording of an error. -/
def SettingsError.message : SettingsError → String
  | .shape found expected => "invalid type: " ++ found.description ++ ", expected " ++ expected
  | .setting mismatch path source =>
    "invalid type: " ++ mismatch.found.description ++ ", expected " ++ mismatch.expected
      ++ " for key `" ++ path ++ "`"
      ++ (source.map fun s => " in " ++ s.name).getD ""
  | .short length =>
    "invalid length " ++ Decimal.ofNat length ++ ", expected struct DatabaseConfig with 3 elements"
  | .absent => "missing field `database`"
  | .endless => "a list is too long"

end DesignHistory
