import DesignHistory.Binary64

/-!
# JSON values

Records are exchanged as JSON.  A number is kept as an integer when it is written
as one that 64 bits can hold, and as a binary number otherwise: only integers are
ever read as ids, and `1.0` is not one.  An object keeps its members in the order
of writing.

## Main definitions

* `Json`: the values.
* `Json.get?`: a member of an object, the last one of its name.
* `Json.asText?`, `Json.asArray?`, `Json.asObject?`: the value as
  one kind.
-/

namespace DesignHistory

/-- A JSON value.  The members of an object keep the order in which they are written, which is what
printed records are compared by; numbers are integers as far as they fit in 64 bits. -/
inductive Json where
  | null
  | bool (b : Bool)
  | int (n : Int)
  /-- A number with a fraction or an exponent, one beyond 64 bits, and minus zero. -/
  | real (x : Binary64)
  | text (s : String)
  | array (items : List Json)
  | object (members : List (String × Json))
deriving Inhabited, Repr

namespace Json

/-- The value of the last member of a name. -/
def lookup (name : String) (members : List (String × Json)) : Option Json :=
  (members.reverse.find? fun m => m.1 == name).map Prod.snd

/-- A member of an object. -/
def get? : Json → String → Option Json
  | .object members, name => lookup name members
  | _, _ => none

/-- A text. -/
def asText? : Json → Option String
  | .text s => some s
  | _ => none

/-- The items of an array. -/
def asArray? : Json → Option (List Json)
  | .array items => some items
  | _ => none

/-- The members of an object. -/
def asObject? : Json → Option (List (String × Json))
  | .object members => some members
  | _ => none

end Json

end DesignHistory
