/-!
# Percent encoding

A byte of a text may be written as a percent sign and two hexadecimal digits. Each part of a URL has
its own set of ASCII characters that are written so; characters outside ASCII always are.
-/

namespace EventFeed.Url

/-- The bytes of a character. -/
def bytesOf (c : Char) : List Nat :=
  (String.utf8EncodeChar c).map UInt8.toNat

/-- A hexadecimal digit in upper case. -/
def upperDigit (n : Nat) : Char :=
  Char.ofNat (if n < 10 then 48 + n else 55 + n)

/-- A byte written with a percent sign. -/
def percentByte (b : Nat) : List Char :=
  ['%', upperDigit (b / 16), upperDigit (b % 16)]

/-- Whether a character is a control character or lies outside ASCII. -/
def isControl (c : Char) : Bool :=
  c.toNat < 0x20 || 0x7F ≤ c.toNat

/-- The further characters that are encoded in a fragment. -/
def fragmentSet : List Char := " \"<>`".toList

/-- The further characters that are encoded in a query. -/
def querySet : List Char := " \"#<>'".toList

/-- The further characters that are encoded in a path. -/
def pathSet : List Char := fragmentSet ++ "#?\x7b\x7d".toList

/-- The further characters that are encoded in a user name or password. -/
def userSet : List Char := pathSet ++ "/:;=@[\\]^|".toList

/-- Encode the characters of a set, the control characters, and those outside ASCII. -/
def encode (set cs : List Char) : List Char :=
  cs.flatMap fun c =>
    if isControl c || set.contains c then (bytesOf c).flatMap percentByte else [c]

/-- The value of a hexadecimal digit. -/
def hexValue? (c : Char) : Option Nat :=
  let n := c.toNat
  if 48 ≤ n && n ≤ 57 then some (n - 48)
  else if 97 ≤ n && n ≤ 102 then some (n - 87)
  else if 65 ≤ n && n ≤ 70 then some (n - 55)
  else none

/-- The bytes of a text in which percent signs may stand for bytes. A percent sign that is not
followed by two digits stands for itself. -/
def decodeBytes : List Char → List Nat
  | [] => []
  | '%' :: a :: b :: rest =>
    match hexValue? a, hexValue? b with
    | some x, some y => (x * 16 + y) :: decodeBytes rest
    | _, _ => 37 :: decodeBytes (a :: b :: rest)
  | c :: rest => bytesOf c ++ decodeBytes rest

/-- The text that some bytes hold, none when they are no UTF-8. -/
def textOfBytes? (bytes : List Nat) : Option String :=
  String.fromUTF8? ⟨(bytes.map UInt8.ofNat).toArray⟩

end EventFeed.Url
