import DesignHistory.Json

/-!
# Places within JSON values

A place is reached from a value by steps, each to a member of an object or to an
item of an array.  What stands at a place can be changed also if it is not there
yet: every value on the way is made an object or an array first, as the step asks.

## Main definitions

* `Json.Step`: one step.
* `Json.setMember`: an object with one member set.
* `Json.alterAt`: a value changed at a place.
-/

namespace DesignHistory.Json

/-- A step into a value.  A step makes room where there is none: a member of something that is no
object makes it an object, and an item beyond the end of a list makes the list long enough. -/
inductive Step where
  | member (name : String)
  /-- An item counted from the start, or from the end if the number is negative. -/
  | item (index : Int)
deriving DecidableEq, Repr

/-- Members with one of them set, at its place or at the end. -/
def setMember (name : String) (value : Json) : List (String × Json) → List (String × Json)
  | [] => [(name, value)]
  | (n, v) :: rest =>
    if n = name then (n, value) :: rest else (n, v) :: setMember name value rest

/-- The members of an object, none for another value. -/
def membersOf (j : Option Json) : List (String × Json) := (j.bind asObject?).getD []

/-- The items of an array, none for another value. -/
def itemsOf (j : Option Json) : List Json := (j.bind asArray?).getD []

/-- Items filled up with nulls so that there is one at an index, and its position:
behind the last item, or in front of the first one for an index from the end. -/
def reach (items : List Json) (index : Int) : List Json × Nat :=
  match index with
  | .ofNat n => (items ++ List.replicate (n + 1 - items.length) .null, n)
  | .negSucc n =>
    let items := List.replicate (n + 1 - items.length) .null ++ items
    (items, items.length - (n + 1))

/-- A value with the one at a place changed; `none` stands for a value that is not there.  What lies
beside the place stays as it is, which is how one layer of settings overrides another one piece by
piece. -/
def alterAt (change : Option Json → Json) : List Step → Option Json → Json
  | [], j => change j
  | .member name :: place, j =>
    let members := membersOf j
    .object (setMember name (alterAt change place (lookup name members)) members)
  | .item index :: place, j =>
    let (items, position) := reach (itemsOf j) index
    .array (items.set position (alterAt change place items[position]?))

end DesignHistory.Json
