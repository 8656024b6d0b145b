import DesignHistory.SortedMap

/-!
# Environment variables

The variables around the program, as pairs of a name and a value.

## Main definitions

* `Environment`: the variables, in order.
* `Environment.ofEntry?`: the variable that an entry sets.
* `Environment.ofVariables`: the environment of a program that is started with some
  variables.
* `Environment.get?`: the value of a variable.

An entry is one text, a name and a value with an equals sign between them, and only
the text counts: the entry of `A=B` and `c` is the one of `A` and `B=c`.  So it
gives `A` a value, but also answers a request for `A=B`.
-/

namespace DesignHistory

/-- Environment variables, with their values.  The order counts, and a name may occur twice: the
first one is found. -/
abbrev Environment := List (String × String)

namespace Environment

/-- The entry of a variable. -/
def entry (name value : String) : List Char := name.toList ++ '=' :: value.toList

/-- The variable that an entry stands for: its name is not empty and ends at the
first equals sign after that. -/
def ofEntry? : List Char → Option (String × String)
  | [] => none
  | c :: cs =>
    match cs.dropWhile (· != '=') with
    | _ :: value => some (String.ofList (c :: cs.takeWhile (· != '=')), String.ofList value)
    | [] => none

/-- The environment of a program that is started with some variables, of which a later one replaces
an earlier one of its name: the entries are in the order of the names.  A name with an equals sign
in it comes out as another variable. -/
def ofVariables (pairs : List (String × String)) : Environment :=
  (SortedMap.ofList pairs).entries.filterMap fun (name, value) => ofEntry? (entry name value)

/-- What follows the equals sign of an entry, if a name stands in front of it. -/
def answer? (name : String) (entry : List Char) : Option String :=
  let cs := name.toList ++ ['=']
  if cs.isPrefixOf entry then some (String.ofList (entry.drop cs.length)) else none

/-- The value of a variable, from the first entry that has one; a name that is empty has none.  What
is compared is the start of the whole entry, the equals sign included. -/
def get? (env : Environment) (name : String) : Option String :=
  if name.isEmpty then none
  else env.findSome? fun (n, value) => answer? name (entry n value)

end Environment

end DesignHistory
