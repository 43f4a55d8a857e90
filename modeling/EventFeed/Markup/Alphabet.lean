/-!
# The characters of a document

The character classes of XML documents of version 1.0 and 1.1: white space, the characters of names,
and the characters that may stand in a document at all.
-/

namespace EventFeed.Markup

/-- The version a document declares; a document without a declaration is of version 1.0. -/
inductive Version where
  | one
  | oneOne
  deriving DecidableEq, Repr, Inhabited

/-- White space of the document grammar: space, tab, line feed and carriage return. -/
def isSpace (c : Char) : Bool :=
  c == ' ' || c == '\t' || c == '\n' || c == '\r'

/-- Whether a code point lies in one of the ranges. -/
def inRanges (ranges : List (Nat × Nat)) (n : Nat) : Bool :=
  ranges.any fun range => range.1 ≤ n && n ≤ range.2

/-- The code points that may begin a name, the colon among them. -/
def nameStartRanges : List (Nat × Nat) :=
  [(0x61, 0x7A), (0x41, 0x5A), (0x5F, 0x5F), (0x3A, 0x3A), (0xC0, 0xD6), (0xD8, 0xF6),
   (0xF8, 0x2FF), (0x370, 0x37D), (0x37F, 0x1FFF), (0x200C, 0x200D), (0x2070, 0x218F),
   (0x2C00, 0x2FEF), (0x3001, 0xD7FF), (0xF900, 0xFDCF), (0xFDF0, 0xFFFD), (0x10000, 0xEFFFF)]

/-- The further code points that may continue a name. -/
def nameMoreRanges : List (Nat × Nat) :=
  [(0x30, 0x39), (0x2D, 0x2E), (0xB7, 0xB7), (0x300, 0x36F), (0x203F, 0x2040)]

/-- Whether a character may begin a name. -/
def isNameStart (c : Char) : Bool :=
  inRanges nameStartRanges c.toNat

/-- Whether a character may stand in a name. -/
def isNameChar (c : Char) : Bool :=
  isNameStart c || inRanges nameMoreRanges c.toNat

/-- The characters that a document of a version may hold, written out or by reference. -/
def Version.allows (version : Version) (c : Char) : Bool :=
  let n := c.toNat
  n != 0xFFFE && n != 0xFFFF &&
    match version with
    | .one => n == 0x9 || n == 0xA || n == 0xD || 0x20 ≤ n
    | .oneOne => n != 0

/-- The characters that may be written out in text and in attribute values. Version 1.1 wants its
control characters written as references. -/
def Version.allowsLiteral (version : Version) (c : Char) : Bool :=
  let n := c.toNat
  version.allows c &&
    match version with
    | .one => true
    | .oneOne =>
      !((1 ≤ n && n ≤ 8) || n == 0xB || n == 0xC || (0xE ≤ n && n ≤ 0x1F) ||
        (0x7F ≤ n && n ≤ 0x84) || (0x86 ≤ n && n ≤ 0x9F))

end EventFeed.Markup
