import DesignHistory.Design
import DesignHistory.KeyOrder
import DesignHistory.Text.Decimal
import DesignHistory.Text.Quoted

/-!
# Pins

A pin names one design as of one version.  It is handed out as a text, the two
ids in decimal with a point between them, and a text is read back only in the
exact form that writing gives.

## Main definitions

* `Pin`: a design id and a version id, ordered by design and then by version.
* `Pin.encode`, `Pin.decode`: the text form.
* `Pin.Malformed`: what is wrong with a text that is no pin, with its message.

Reading looks for the point first, then at the design half, then at the version
half; the first thing that is wrong is reported.
-/

namespace DesignHistory

/-- **The name of a design as of a version.** It consists of the two ids and is never stored.  That
it names something, and that the two belong to one issue, is not part of it. -/
structure Pin where
  designId : DesignId
  versionId : VersionId
deriving DecidableEq, Repr

namespace Pin

/-- Pins are ordered by design, and pins of one design by version. -/
instance : KeyOrder Pin :=
  KeyOrder.pullback (fun p => (p.designId, p.versionId)) fun {p q} h => by
    cases p; cases q; simp_all

/-- The text form: the two ids with a point between them. -/
def encode (p : Pin) : String :=
  Decimal.ofInt64 p.designId ++ "." ++ Decimal.ofInt64 p.versionId

/-- One of the two ids of a pin. -/
inductive Half where
  | design
  | version
deriving DecidableEq, Repr

/-- How messages call a half. -/
def Half.label : Half → String
  | .design => "design id"
  | .version => "version id"

/-- What is wrong with a text that is no pin.  A text can have several defects; the one that is
reported is the first one that reading meets. -/
inductive Defect where
  | missingSeparator
  | extraSeparator
  | notDigits (half : Half)
  | leadingZeros (half : Half)
  | tooLarge (half : Half)
deriving DecidableEq, Repr

/-- The wording of a defect. -/
def Defect.reason : Defect → String
  | .missingSeparator => "missing '.' separator"
  | .extraSeparator => "more than one '.' separator"
  | .notDigits half => half.label ++ " must be decimal digits"
  | .leadingZeros half => half.label ++ " has leading zeros"
  | .tooLarge half => half.label ++ ": " ++ Decimal.ReadError.tooLarge.message

/-- A text that is no pin, as it was given, with what is wrong with it. -/
structure Malformed where
  identity : String
  defect : Defect
deriving DecidableEq, Repr

/-- The message about a text that is no pin. -/
def Malformed.message (m : Malformed) : String :=
  "malformed design-at-version identity " ++ Text.quote m.identity ++ ": " ++ m.defect.reason

/-- The parts before and after the first point. -/
def splitPoint? : List Char → Option (List Char × List Char)
  | [] => none
  | c :: cs =>
    if c = '.' then some ([], cs)
    else (splitPoint? cs).map fun (before, after) => (c :: before, after)

/-- Reads one half: a decimal number without leading zeros. -/
def readHalf (half : Half) (digits : List Char) : Except Defect Int64 :=
  if digits.isEmpty || !digits.all Char.isDigit then .error (.notDigits half)
  else if 1 < digits.length && digits.head? == some '0' then .error (.leadingZeros half)
  else if Decimal.value digits ≤ Decimal.maxInt64 then .ok (Int64.ofNat (Decimal.value digits))
  else .error (.tooLarge half)

/-- The pin that characters denote, or what is wrong with them.  Defects are looked for in a fixed
order: the point first, then the half of the design, then that of the version. -/
def read (cs : List Char) : Except Defect Pin :=
  match splitPoint? cs with
  | none => .error .missingSeparator
  | some (design, version) =>
    if version.contains '.' then .error .extraSeparator
    else do
      let designId ← readHalf .design design
      let versionId ← readHalf .version version
      return ⟨designId, versionId⟩

/-- **The pin that a text denotes.** There has to be one point, with a decimal number that fits in a
signed 64-bit one on both sides, and neither may have a sign or zeros in front.  So every pin
without negative ids has one text, and no other text denotes it. -/
def decode (identity : String) : Except Malformed Pin :=
  (read identity.toList).mapError (⟨identity, ·⟩)

/-- The pins that texts denote, or the first text that is no pin. -/
def decodeAll (identities : List String) : Except Malformed (List Pin) :=
  identities.mapM decode

/-- The pin that a text denotes, none for a malformed text. -/
def decode? (identity : String) : Option Pin := (decode identity).toOption

end Pin

end DesignHistory
