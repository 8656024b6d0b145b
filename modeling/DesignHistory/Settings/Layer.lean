import DesignHistory.Environment
import DesignHistory.Json.Place
import DesignHistory.Settings.Path

/-!
# Layers of settings

Settings come from several layers: defaults, a document, and environment variables.
A later layer overrides an earlier one place by place, and what a layer leaves out
falls through to the one below.

## Main definitions

* `Settings.overlay`: a value on top of another one.
* `Settings.put`: a value at a path, on top of a layer.
* `Settings.ofDocument`: a document on top of a layer.
* `Settings.ofEnvironment`: the environment variables on top of a layer.

Layers are JSON values until all of them are in place, and only the final values
have to be of their kinds: a bad value that is overridden does no harm.
-/

namespace DesignHistory.Settings

open Json (Step)

/-- A text in lower case; apart from the letters of ASCII this concerns the sign of
the unit kelvin, whose lower case is the letter `k`. -/
def lower (s : String) : String :=
  String.ofList (s.toList.map fun c => if c = '\u212a' then 'k' else c.toLower)

mutual

/-- A value on top of another one: objects member by member, names in whatever case, anything else
as a whole.  An empty object overrides nothing, and a list replaces the one below with all its
items. -/
def overlay (base : Option Json) : Json → Json
  | .object [] => base.getD (.object [])
  | .object (member :: members) =>
    .object (overlayMembers (Json.membersOf base) (member :: members))
  | value => value

/-- Members on top of other members. -/
def overlayMembers (base : List (String × Json)) : List (String × Json) → List (String × Json)
  | [] => base
  | (name, value) :: rest =>
    let name := lower name
    overlayMembers (Json.setMember name (overlay (Json.lookup name base) value) base) rest

end

/-- What becomes of the value at the end of a path: a value for a member goes on top
of what is there, an item is replaced. -/
def Path.change (p : Path) (value : Json) (base : Option Json) : Json :=
  match p.steps.getLast? with
  | some (.item _) => value
  | _ => overlay base value

/-- A value put at a path, on top of a layer.  The path may lead through members that are not there
yet, and then creates them. -/
def put (layer : Json) (name : List Char) (value : Json) : Json :=
  let path := Path.ofName name
  Json.alterAt (path.change value) (.member path.root :: path.steps) (some layer)

/-- Whether there can be values at the places that some names stand for. -/
def areReachable (names : List (List Char)) : Bool :=
  names.all fun name => (Path.ofName name).isReachable

/-- A document on top of a layer. -/
def ofDocument (members : List (String × Json)) (base : Json) : Json :=
  members.foldl (fun layer (name, value) => put layer (lower name).toList value) base

/-- What the names of the variables that are settings start with. -/
def variableStart : List Char := "dav_".toList

/-- A name with points for pairs of underscores. -/
def pointed : List Char → List Char
  | '_' :: '_' :: cs => '.' :: pointed cs
  | c :: cs => c :: pointed cs
  | [] => []

/-- The name of the setting that a variable is for, in whatever case it is written. -/
def variableName? (name : String) : Option (List Char) :=
  let cs := (lower name).toList
  if variableStart.isPrefixOf cs then some (pointed (cs.drop variableStart.length)) else none

/-- The environment variables on top of a layer.  They are texts throughout; what they denote is
decided by the place where they end up. -/
def ofEnvironment (env : Environment) (base : Json) : Json :=
  env.foldl (fun layer (name, value) =>
    match variableName? name with
    | some name => put layer name (.text value)
    | none => layer) base

end DesignHistory.Settings
