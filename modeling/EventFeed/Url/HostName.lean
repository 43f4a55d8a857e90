import EventFeed.Text.Shapeless
import EventFeed.Url.Address
import EventFeed.Url.Punycode

/-!
# Host names

A host name consists of labels between full stops. Letters are taken in lower case, wide characters
are narrowed, and characters that only guide the layout are dropped; then each label that lies
outside ASCII is written in Punycode behind the mark `xn--`. A label that carries the mark already
must read back as a label that needs it.

Outside ASCII this is less than the whole of Unicode's compatibility processing. Case and width are
known for the Latin, Greek, Cyrillic and Armenian scripts; characters of the other scripts, and
those that are compatible with others, stand for themselves. Nothing is composed: a character
without a shape of its own (`Text.isShapeless`), which a mark that joins the character before it is,
is refused wherever it stands, so that a name which needs such marks is refused too, in Punycode as
well. Labels that are written from right to left follow no rules of their own.
-/

namespace EventFeed.Url

/-- The characters that may not stand in any host. -/
def forbiddenInHost : List Char := "\x00\t\n\x0d #/:<>?@[\\]^|".toList

/-- Whether an ASCII character may stand in a host name. -/
def allowedInName (c : Char) : Bool :=
  !isControl c && !forbiddenInHost.contains c && c != '%'

/-! ### Folding -/

/-- Capital letters that stand so far below their small letters. -/
def capitalRanges : List (Nat × Nat × Nat) :=
  [(0x41, 0x5A, 32), (0xC0, 0xD6, 32), (0xD8, 0xDE, 32), (0x388, 0x38A, 37), (0x38E, 0x38F, 63),
   (0x391, 0x3A1, 32), (0x3A3, 0x3AB, 32), (0x400, 0x40F, 80), (0x410, 0x42F, 32),
   (0x531, 0x556, 48)]

/-- Ranges in which every other character, from the first on, is the capital of the next one. -/
def pairedRanges : List (Nat × Nat) :=
  [(0x100, 0x12F), (0x134, 0x137), (0x139, 0x13E), (0x141, 0x148), (0x14A, 0x177), (0x179, 0x17E),
   (0x1CD, 0x1DC), (0x1DE, 0x1EF), (0x1F8, 0x21F), (0x222, 0x233), (0x370, 0x373), (0x3D8, 0x3EF),
   (0x460, 0x481), (0x48A, 0x4BF), (0x4C1, 0x4CE), (0x4D0, 0x52F), (0x1E00, 0x1E95),
   (0x1EA0, 0x1EFF)]

/-- Characters with a form of their own. -/
def singleForms : List (Nat × List Nat) :=
  [(0xAA, [0x61]), (0xB2, [0x32]), (0xB3, [0x33]), (0xB5, [0x3BC]), (0xB9, [0x31]), (0xBA, [0x6F]),
   (0x130, [0x69, 0x307]), (0x132, [0x69, 0x6A]), (0x133, [0x69, 0x6A]), (0x13F, [0x6C, 0xB7]),
   (0x140, [0x6C, 0xB7]), (0x149, [0x2BC, 0x6E]), (0x178, [0xFF]), (0x17F, [0x73]),
   (0x386, [0x3AC]), (0x38C, [0x3CC]), (0x4C0, [0x4CF]), (0x1E9E, [0xDF]), (0x2126, [0x3C9]),
   (0x212A, [0x6B]), (0x212B, [0xE5]), (0x3002, [0x2E]), (0xFB00, [0x66, 0x66]),
   (0xFB01, [0x66, 0x69]), (0xFB02, [0x66, 0x6C]), (0xFF61, [0x2E])]

/-- The characters that are dropped: they guide line breaks, joins and the choice of a shape. -/
def isDropped (n : Nat) : Bool :=
  n == 0xAD || n == 0x34F || (0x180B ≤ n && n ≤ 0x180D) || n == 0x180F || n == 0x200B ||
    n == 0x2060 || n == 0x2064 || (0xFE00 ≤ n && n ≤ 0xFE0F) || n == 0xFEFF

/-- The small letter of a code point, or the code point itself. -/
def smallLetter (n : Nat) : Nat :=
  match capitalRanges.find? fun range => range.1 ≤ n && n ≤ range.2.1 with
  | some range => n + range.2.2
  | none =>
    match pairedRanges.find? fun range => range.1 ≤ n && n ≤ range.2 with
    | some range => if (n - range.1) % 2 = 0 then n + 1 else n
    | none => n

/-- What a code point of a host name is taken for. -/
def foldCode (n : Nat) : List Nat :=
  if isDropped n then []
  else if 0xFF01 ≤ n && n ≤ 0xFF5E then [smallLetter (n - 0xFEE0)]
  else match singleForms.lookup n with
    | some form => form
    | none => [smallLetter n]

/-- A host name as it is taken. -/
def foldName (cs : List Char) : List Char :=
  cs.flatMap fun c => (foldCode c.toNat).map Char.ofNat

/-! ### Labels -/

/-- The mark of a label in Punycode. -/
def labelMark : List Char := "xn--".toList

/-- Whether a character lies outside ASCII. -/
def isWide (c : Char) : Bool :=
  128 ≤ c.toNat

/-- Whether a folded character may stand in a label. Outside ASCII, joining marks may not. -/
def allowedInLabel (c : Char) : Bool :=
  if isWide c then !Text.isShapeless c && c != '\uFFFD' else allowedInName c

/-- Whether what follows the mark reads back as a label that needs the mark. -/
def isMarkedLabel (cs : List Char) : Bool :=
  (Punycode.decode? cs).any fun label =>
    label.any isWide && label.all allowedInLabel && foldName label == label

/-- The ASCII form of a folded label. -/
def asciiLabel? (label : List Char) : Option (List Char) :=
  if !label.all allowedInLabel then none
  else if label.any isWide then some (labelMark ++ Punycode.encode label)
  else if labelMark.isPrefixOf label && !isMarkedLabel (label.drop labelMark.length) then none
  else some label

/-- The ASCII form of a host name. -/
def asciiName? (cs : List Char) : Option (List Char) :=
  ((dotted (foldName cs)).mapM asciiLabel?).map fun labels => ['.'].intercalate labels

end EventFeed.Url
