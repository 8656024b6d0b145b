import DesignHistory.HostName.Direction
import DesignHistory.Text.Composition

/-!
# Joined letters

In some scripts letters are joined to their neighbours.  Two characters without a shape,
the joiner U+200D and the non-joiner U+200C, change where; in a name they are allowed
only where they make a difference.

## Main definitions

* `Joining`: to which neighbours a letter is joined.
* `joiningOf`: the joining of a character.
* `isMark`: whether a character is a mark on the one before it.
* `hasJoinersInPlace`: whether joiners and non-joiners are where they are allowed.

The tables are taken from the Unicode character database (version 17.0); they are about
characters that can be part of names, and tell nothing about others.
-/

namespace DesignHistory.HostName

open Text (inRanges rangesOf)

/-- To which neighbours a letter is joined.  A non-joiner is allowed where it keeps apart two
letters that would be joined without it, which is why the letters on both sides matter. -/
inductive Joining where
  | none
  /-- To the one behind it. -/
  | behind
  /-- To the one before it. -/
  | before
  | both
  /-- The character does not count for its neighbours. -/
  | transparent
deriving DecidableEq, Repr

/-! ### Tables -/

/-- Letters that are joined to both neighbours. -/
def bothText : String := "
  620 626 628 62a-62e 633-63f 641-647 649-64a 66e-66f 679-687 69a-6bf 6c1-6c2 6cc 6ce 6d0-6d1
  6fa-6fc 6ff 712-714 71a-71d 71f-727 729 72b 72d-72e 74e-758 75c-76a 76d-770 772 775-777 77a-77f
  7ca-7ea 841-845 848 84a-853 855 860 862-865 868 886 889-88d 88f 8a0-8a9 8af-8b0 8b3-8b8 8ba-8c8
  1807 1820-1878 1887-18a8 18aa a840-a871 10ac0-10ac4 10ad3-10ad6 10ad8-10adc 10ade-10ae0
  10aeb-10aee 10b80 10b82 10b86-10b88 10b8a-10b8b 10b8d 10b90 10bad-10bae 10d01-10d21 10d23
  10ec3-10ec4 10ec6-10ec7 10f30-10f32 10f34-10f44 10f51-10f53 10f70-10f73 10f76-10f81 10fb0
  10fb2-10fb3 10fb8 10fbb-10fbc 10fbe-10fbf 10fc1 10fc4 10fca 1e922-1e943"

/-- Letters that are joined to the one before. -/
def beforeText : String := "
  622-625 627 629 62f-632 648 671-673 688-699 6c0 6c3-6cb 6cd 6cf 6d2-6d3 6d5 6ee-6ef 710 715-719
  71e 728 72a 72c 72f 74d 759-75b 76b-76c 771 773-774 778-779 840 846-847 849 854 856-858 867
  869-882 88e 8aa-8ac 8ae 8b1-8b2 8b9 10ac5 10ac7 10ac9-10aca 10ace-10ad2 10add 10ae1 10ae4 10aef
  10b81 10b83-10b85 10b89 10b8c 10b8e-10b8f 10b91 10ba9-10bac 10d22 10ec2 10f33 10f54 10f74-10f75
  10fb4-10fb6 10fb9-10fba 10fbd 10fc2-10fc3 10fc9"

/-- Letters that are joined to the one behind. -/
def behindText : String := "
  a872 10acd 10ad7 10d00 10fcb"

/-- Characters that do not count for their neighbours, besides the marks that take the
direction of the character before them. -/
def transparentText : String := "
  cbf cc6 11a07-11a08 11c3f 1e94b"

/-- Marks with a place of their own. -/
def spacingText : String := "
  903 93b 93e-940 949-94c 94e-94f 982-983 9be-9c0 9c7-9cc 9d7 a03 a3e-a40 a83 abe-ac0 ac9-acc
  b02-b03 b3e b40 b47-b4c b57 bbe-bbf bc1-bcc bd7 c01-c03 c41-c44 c82-c83 cbe-ccb cd5-cd6 cf3
  d02-d03 d3e-d40 d46-d4c d57 d82-d83 dcf-dd1 dd8-ddf df2-df3 f3e-f3f f7f 102b-102c 1031 1038
  103b-103c 1056-1057 1062-1064 1067-106d 1083-1084 1087-108c 108f 109a-109c 1715 1734 17b6
  17be-17c5 17c7-17c8 1923-1926 1929-1931 1933-1938 1a19-1a1a 1a55 1a57 1a61 1a63-1a64 1a6d-1a72
  1b04 1b35 1b3b 1b3d-1b41 1b43-1b44 1b82 1ba1 1ba6-1ba7 1baa 1be7 1bea-1bec 1bee 1bf2-1bf3
  1c24-1c2b 1c34-1c35 1ce1 1cf7 302e-302f a823-a824 a827 a880-a881 a8b4-a8c3 a952-a953 a983
  a9b4-a9b5 a9ba-a9bb a9be-a9c0 aa2f-aa30 aa33-aa34 aa4d aa7b aa7d aaeb aaee-aaef aaf5 abe3-abe4
  abe6-abe7 abe9-abea abec 11000 11002 11082 110b0-110b2 110b7-110b8 1112c 11145-11146 11182
  111b3-111b5 111bf-111c0 111ce 1122c-1122e 11232-11233 11235 112e0-112e2 11302-11303 1133e-1133f
  11341-1134d 11357 11362-11363 113b8-113ba 113c2-113cd 113cf 11435-11437 11440-11441 11445
  114b0-114b2 114b9 114bb-114be 114c1 115af-115b1 115b8-115bb 115be 11630-11632 1163b-1163c 1163e
  116ac 116ae-116af 116b6 1171e 11720-11721 11726 1182c-1182e 11838 11930-11938 1193d 11940 11942
  119d1-119d3 119dc-119df 119e4 11a07-11a08 11a39 11a57-11a58 11a97 11b61 11b65 11b67 11c2f
  11c3e-11c3f 11ca9 11cb1 11cb4 11d8a-11d8e 11d93-11d94 11d96 11ef5-11ef6 11f03 11f34-11f35
  11f3e-11f3f 11f41 1612a-1612c 16f51-16f87 16ff0-16ff1 1d165-1d166 1d16d-1d172"

/-- The kinds of joining with the ranges of their characters. -/
def joinings : List (List (Nat × Nat) × Joining) := [
  (rangesOf bothText, .both), (rangesOf beforeText, .before), (rangesOf behindText, .behind),
  (rangesOf transparentText, .transparent)]

/-- Marks with a place of their own. -/
def spacingMarks : List (Nat × Nat) := rangesOf spacingText

/-- To which neighbours a character is joined. -/
def joiningOf (c : Char) : Joining :=
  ((joinings.find? fun j => inRanges j.1 c).map Prod.snd).getD
    (if directionOf c = .mark then .transparent else .none)

/-- Whether a character is a mark on the one before it. -/
def isMark (c : Char) : Bool := directionOf c == .mark || inRanges spacingMarks c

/-! ### Joiners -/

/-- The class of the marks that take the vowel from a letter. -/
def viramaClass : Nat := 9

/-- Whether the first of several characters that counts is joined as required. -/
def isJoined (required : Joining) (cs : List Char) : Bool :=
  (cs.find? fun c => joiningOf c != .transparent).any fun c =>
    joiningOf c == required || joiningOf c == .both

/-- Whether a character that is a joiner or a non-joiner is allowed between the text
before it, the last character first, and the text behind it.  Both are behind a mark
that takes the vowel from a letter; a non-joiner is also between letters that would be
joined without it. -/
def isInPlace (reversed : List Char) (c : Char) (rest : List Char) : Bool :=
  reversed.head?.any (fun v => Text.Composition.markClass v.toNat == viramaClass)
    || (c == '\u200c' && isJoined .behind reversed && isJoined .before rest)

/-- Whether joiners and non-joiners in a text are allowed, behind some characters, the
last of them first. -/
def hasJoinersInPlace (reversed : List Char) : List Char → Bool
  | [] => true
  | c :: rest =>
    ((c != '\u200c' && c != '\u200d') || isInPlace reversed c rest)
      && hasJoinersInPlace (c :: reversed) rest

end DesignHistory.HostName
