import EventFeed.Text.Shapeless

/-!
# Quoted text

A text in quotation marks, as it is shown to a person: quotation marks and backslashes are escaped,
line ends, tabs and the null character have short escapes, and a character without a shape of its
own is written by its code point.
-/

namespace EventFeed.Text

/-- A number in hexadecimal, in lower case. -/
def hex (n : Nat) : List Char :=
  Nat.toDigits 16 n

/-- How a character is written inside quotation marks. -/
def quoteChar (c : Char) : List Char :=
  if c == '\x22' || c == '\\' then ['\\', c]
  else if c == '\n' then ['\\', 'n']
  else if c == '\r' then ['\\', 'r']
  else if c == '\t' then ['\\', 't']
  else if c == '\x00' then ['\\', '0']
  else if isShapeless c then ['\\', 'u', '\x7b'] ++ hex c.toNat ++ ['\x7d']
  else [c]

/-- A text in quotation marks. -/
def quote (s : String) : String :=
  String.ofList ('\x22' :: s.toList.flatMap quoteChar ++ ['\x22'])

end EventFeed.Text
