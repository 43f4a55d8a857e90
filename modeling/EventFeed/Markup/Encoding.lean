/-!
# Declared encodings

A document arrives as UTF-8. Its declaration may name an encoding, and that name decides how the
bytes behind the name are read: as UTF-8, as Latin-1 (each byte one character), or as ASCII (no byte
above 127). UTF-16 and unknown names are refused.
-/

namespace EventFeed.Markup

/-- How the bytes of a document are read. -/
inductive Encoding where
  | utf8
  | latin1
  | ascii
  deriving DecidableEq, Repr, Inhabited

namespace Encoding

/-- The bytes of a character in UTF-8. -/
def bytesOf (c : Char) : List Nat :=
  (String.utf8EncodeChar c).map UInt8.toNat

/-- Whether two labels agree, regardless of case, as far as the shorter one goes. -/
def labelsAgree (label name : String) : Bool :=
  let lower (n : Nat) := if 65 ≤ n && n ≤ 90 then n + 32 else n
  let bytes := name.toList.flatMap bytesOf
  ((label.toList.map Char.toNat).zip bytes).all fun pair => pair.1 == lower pair.2

/-- The labels in the order in which they are tried; no encoding stands for one that is refused. -/
def labels : List (String × Option Encoding) :=
  [("utf-8", some utf8), ("utf8", some utf8), ("iso-8859-1", some latin1), ("latin1", some latin1),
   ("utf-16", none), ("utf16", none), ("ascii", some ascii), ("us-ascii", some ascii)]

/-- The encoding of a declared name, none when the name is refused. -/
def ofLabel? (name : String) : Option Encoding :=
  (labels.find? fun entry => labelsAgree entry.1 name).bind Prod.snd

/-- The characters that one character of the UTF-8 text stands for. -/
def decode? (encoding : Encoding) (c : Char) : Option (List Char) :=
  match encoding with
  | utf8 => some [c]
  | latin1 => some ((bytesOf c).map Char.ofNat)
  | ascii => if c.toNat < 128 then some [c] else none

end Encoding

end EventFeed.Markup
