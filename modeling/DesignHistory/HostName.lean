import DesignHistory.Database.IpAddress
import DesignHistory.HostName.Joining
import DesignHistory.HostName.Punycode
import DesignHistory.HostName.Replacement

/-!
# Names of hosts

A host has a name of parts between points, which may have characters of any script.
Every part in another script than ASCII also has a form in ASCII, which starts with
`xn--`.

## Main definitions

* `HostName.partsOf?`: the parts of a name in their own scripts.
* `HostName.isPart`, `HostName.isOrderly`: what the parts have to be like.
* `HostName.isName`: whether a text is the name of a host.

A part may be empty, but a name is not.  A name that ends like an address of four bytes
has to be one.
-/

namespace DesignHistory.HostName

open Database (IpAddress.endsInNumber IpAddress.isNumeric)

/-! ### Parts -/

/-- Whether a character belongs to ASCII. -/
def isAscii (c : Char) : Bool := c.toNat < 0x80

/-- Whether a character does not delimit a part of a URL, if it belongs to ASCII. -/
def isDistinct (c : Char) : Bool :=
  !isAscii c || (0x21 ≤ c.toNat && c.toNat ≤ 0x7e && !"#%/:<>?@[\\]^|".toList.contains c)

/-- What a part in encoded form starts with. -/
def encodedStart : List Char := "xn--".toList

/-- The most characters of an encoded part, without its start. -/
def maxEncoded : Nat := 2000

/-- The most characters of a part that is encoded. -/
def maxDecoded : Nat := 1000

/-- The part that stands for characters of another script: not one that could be written
without encoding, nor in another way than it is written without. -/
def decodePart? (code : List Char) : Option (List Char) := do
  let text ← Punycode.decode? code
  if text.all isAscii || !text.all (standing · == .kept) || Text.compose text != text then none
  else return text

/-- A part in its own script. -/
def readPart? (part : List Char) : Option (List Char) :=
  if encodedStart.isPrefixOf part then
    let code := part.drop encodedStart.length
    if code.all isAscii && code.length ≤ maxEncoded then decodePart? code else none
  else some part

/-- The parts of a name in their own scripts, none if a character is refused or a part is encoded in
a wrong way.  The name is brought into its composed form as a whole before it is cut at the
points. -/
def partsOf? (cs : List Char) : Option (List (List Char)) := do
  let name := Text.compose (← replaceAll? cs)
  if name.all isDistinct then (name.splitOn '.').mapM readPart? else none

/-! ### Rules -/

/-- Whether a text can be a part: it does not start with a mark, has joiners only where
they are allowed, and is not too long to be encoded. -/
def isPart (part : List Char) : Bool :=
  (part.all isAscii || part.length ≤ maxDecoded)
    && !part.head?.any isMark && hasJoinersInPlace [] part

/-- Whether the directions in the parts of a name follow the rules, which they have to only if one
of its characters belongs to the direction from right to left.  One such part is enough to bind all
the others. -/
def isOrderly (parts : List (List Char)) : Bool :=
  let directions := parts.map fun part => part.map directionOf
  !(directions.any fun ds => ds.any Direction.isRightward) || directions.all Direction.isOrderly

/-- Whether parts form a name. -/
def isNameOf (parts : List (List Char)) : Bool :=
  let name := ['.'].intercalate parts
  !name.isEmpty && parts.all isPart && isOrderly parts
    && (!IpAddress.endsInNumber name || IpAddress.isNumeric name)

/-- Whether a text is the name of a host. -/
def isName (cs : List Char) : Bool := (partsOf? cs).any isNameOf

end DesignHistory.HostName
