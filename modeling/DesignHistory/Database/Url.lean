import DesignHistory.Database.IpAddress
import DesignHistory.HostName
import DesignHistory.Text.Blank
import DesignHistory.Text.Percent

/-!
# URLs

An absolute URL cut into its parts, as it stands before anything is decoded.

## Main definitions

* `Url`: user, password, host, port, path and query.
* `Url.ofText?`: the parts of a text, if it is a URL.

After its scheme a URL has an authority, which is a user, a host and a port, and a
path.  Some schemes always have an authority, files have a host alone, and all other
schemes have an authority if two slashes follow the scheme.
-/

namespace DesignHistory.Database

/-- The parts of a URL; a part that is absent is empty.  An address takes no notice of the
difference, except for the port, where a number is there or not. -/
structure Url where
  user : List Char := []
  password : List Char := []
  host : List Char := []
  port : Option Nat := none
  path : List Char := []
  query : List Char := []
deriving DecidableEq, Repr

namespace Url

/-! ### Schemes -/

/-- What follows the scheme.  The kind is a matter of the scheme alone, and decides which characters
count as slashes. -/
inductive Kind where
  /-- An authority with a host, however many slashes stand in front of it. -/
  | hosted
  /-- A host without user and port, and a path. -/
  | file
  /-- An authority after two slashes, or a path. -/
  | free
deriving DecidableEq, Repr

/-- The kind of a scheme. -/
def Kind.ofScheme (scheme : String) : Kind :=
  if ["http", "https", "ws", "wss", "ftp"].contains scheme then .hosted
  else if scheme = "file" then .file
  else .free

/-- Whether a backslash counts as a slash. -/
def Kind.hasBackslash (k : Kind) : Bool := k != .free

/-- Whether a character is a slash. -/
def Kind.isSlash (k : Kind) (c : Char) : Bool := c == '/' || (k.hasBackslash && c == '\\')

/-- The scheme in lower case and the text after its colon. -/
def splitScheme? : List Char → Option (String × List Char)
  | c :: cs =>
    if c.isAlpha then
      let isPart := fun c : Char => c.isAlphanum || c == '+' || c == '-' || c == '.'
      match cs.dropWhile isPart with
      | ':' :: rest => some ((String.ofList (c :: cs.takeWhile isPart)).toLower, rest)
      | _ => none
    else none
  | [] => none

/-! ### Hosts -/

/-- A text cut at the first character of a kind, which stays with the rest. -/
def cut (stop : Char → Bool) (cs : List Char) : List Char × List Char :=
  (cs.takeWhile fun c => !stop c, cs.dropWhile fun c => !stop c)

/-- A text cut at the first colon that is not in brackets. -/
def cutAtColon (inBrackets : Bool) : List Char → List Char × List Char
  | [] => ([], [])
  | c :: cs =>
    if c = ':' ∧ !inBrackets then ([], c :: cs)
    else
      let inBrackets := c == '[' || (inBrackets && c != ']')
      let (front, back) := cutAtColon inBrackets cs
      (c :: front, back)

/-- The address in brackets, if a text has a bracket in front. -/
def bracketed? : List Char → Option (List Char)
  | '[' :: cs => some (if cs.getLast? = some ']' then cs.dropLast else [])
  | _ => none

/-- Whether a text is the host of a free scheme: an address in brackets, or any
characters that do not delimit a part of a URL. -/
def isFreeHost (cs : List Char) : Bool :=
  match bracketed? cs with
  | some address => IpAddress.isV6 address
  | none => cs.all fun c => c != '\x00' && !"\t\n\r #/:<>?@[\\]^|".toList.contains c

/-- Whether a text is the host of a scheme that has hosts with names: an address in
brackets, or a name, whose characters may be percent-encoded. -/
def isNamedHost (cs : List Char) : Bool :=
  match bracketed? cs with
  | some address => IpAddress.isV6 address
  | none =>
    match Text.Percent.decode? cs with
    | some name => HostName.isName name.toList
    | none => false

/-! ### Authorities -/

/-- A text cut at its last `@`, if it has one. -/
def splitUser? (cs : List Char) : Option (List Char × List Char) :=
  if cs.contains '@' then
    let host := (cs.reverse.takeWhile (· != '@')).reverse
    some (cs.take (cs.length - host.length - 1), host)
  else none

/-- The number of a port, none for an empty text; it has 16 bits. -/
def readPort? (cs : List Char) : Option (Option Nat) :=
  if cs.isEmpty then some none
  else if cs.all Char.isDigit && Decimal.value cs ≤ 65535 then some (some (Decimal.value cs))
  else none

/-- Whether the host of an authority may be left out: not if there is a port or a
user, nor if nothing but `@` stands in front of something else. -/
def mayLackHost (user : Option (List Char)) (hasPort atEnd : Bool) : Bool :=
  !hasPort
    && (match user with
        | none => true
        | some [] => atEnd
        | some user => user = [':'])

/-- The URL that an authority and the path behind it are; `atEnd` says that nothing
follows them.  A user may have a password after a colon, and a host a port, which a
backslash ends like a slash. -/
def ofAuthority? (k : Kind) (authority path : List Char) (atEnd : Bool) : Option Url := do
  let userInfo := (splitUser? authority).map Prod.fst
  let location := ((splitUser? authority).map Prod.snd).getD authority
  let (host, rest) := cutAtColon false location
  let (port, more) := cut (· == '\\') (rest.drop 1)
  let port ← readPort? port
  let isHost :=
    if k = .hosted then isNamedHost host
    else if host.isEmpty then mayLackHost userInfo (!rest.isEmpty) (atEnd && path.isEmpty)
    else isFreeHost host
  let (user, password) := cut (· == ':') (userInfo.getD [])
  if isHost then return { user, password := password.drop 1, host, port, path := more ++ path }
  else none

/-- Whether a text is the letter of a drive, with a colon or a bar. -/
def isDrive : List Char → Bool
  | [letter, mark] => letter.isAlpha && (mark == ':' || mark == '|')
  | _ => false

/-- The URL of a file, without its scheme. -/
def ofFile? (cs : List Char) : Option Url :=
  match cs with
  | a :: b :: rest =>
    if Kind.file.isSlash a && Kind.file.isSlash b then
      let (host, path) := cut Kind.file.isSlash rest
      if host.isEmpty || isDrive host then some { path := rest }
      else if isNamedHost host then some { host, path }
      else none
    else some { path := cs }
  | _ => some { path := cs }

/-! ### Paths -/

/-- Whether a part of a path stands for the place where it is. -/
def isHere (part : List Char) : Bool :=
  [".", "%2e"].contains (String.ofList part).toLower

/-- Whether a part of a path stands for the place above. -/
def isAbove (part : List Char) : Bool :=
  ["..", ".%2e", "%2e.", "%2e%2e"].contains (String.ofList part).toLower

/-- A path with a slash in front, without the parts that only say where it leads; behind
such a part at the end there is a slash. -/
def resolvePath (k : Kind) (path : List Char) : List Char :=
  let path := if path.head?.any k.isSlash then path.drop 1 else path
  let walk := fun (reversed : List (List Char)) part =>
    if isAbove part then reversed.drop 1 else if isHere part then reversed else part :: reversed
  let parts := path.splitOnP k.isSlash
  let ending := if parts.getLast?.any fun part => isHere part || isAbove part then [[]] else []
  '/' :: ['/'].intercalate (ending ++ parts.foldl walk []).reverse

/-- The URL without its scheme, up to its query.  What the slashes in front mean depends on the kind
of the scheme. -/
def ofHierarchy? (k : Kind) (cs : List Char) (atEnd : Bool) : Option Url := do
  let resolved := fun url : Url => { url with path := resolvePath k url.path }
  match k, cs with
  | .hosted, _ =>
    let (authority, path) := cut k.isSlash (cs.dropWhile k.isSlash)
    return resolved (← ofAuthority? k authority path atEnd)
  | .file, _ => return resolved (← ofFile? cs)
  | .free, '/' :: '/' :: rest =>
    let (authority, path) := cut k.isSlash rest
    return resolved (← ofAuthority? k authority path atEnd)
  | .free, '/' :: _ => return resolved { path := cs }
  | .free, _ => return { path := cs }

/-- The URL that a text is.  Controls and spaces around it do not count, nor do tabs and ends of
lines within it.  What follows a hash sign is not part of the query, and is dropped. -/
def ofText? (s : String) : Option Url := do
  let cs := Text.trimWhere (fun c => c.toNat ≤ 0x20) s.toList
  let cs := cs.filter fun c => c != '\t' && c != '\n' && c != '\r'
  let (scheme, rest) ← splitScheme? cs
  let (hierarchy, rest) := cut (fun c => c == '?' || c == '#') rest
  let url ← ofHierarchy? (.ofScheme scheme) hierarchy rest.isEmpty
  let query := if rest.head? = some '?' then (cut (· == '#') (rest.drop 1)).1 else []
  return { url with query }

end Url

end DesignHistory.Database
