/-!
# UTF-8

Reading UTF-8 one byte at a time. A decoder keeps the characters that are complete and, of a
character that has begun, what its bytes say so far. It refuses a byte at once when no character
goes on with it, so a text that comes in pieces is refused at the first piece that spoils it.
`lossy` refuses nothing: what is no character becomes U+FFFD.
-/

namespace EventFeed.Text

/-- A character that has begun: the value of its bytes so far, how many more bytes it takes, and the
range of the next one. -/
structure Begun where
  value : Nat
  owed : Nat
  low : UInt8 := 0x80
  high : UInt8 := 0xBF
  deriving DecidableEq, Repr

/-- What the first byte of a character of several bytes says. The ranges leave out the longer forms
of what has a shorter one, the surrogates, and everything above U+10FFFF. -/
def Begun.ofLead? (b : UInt8) : Option Begun :=
  if b < 0xC2 then none
  else if b < 0xE0 then some { value := b.toNat - 0xC0, owed := 1 }
  else if b = 0xE0 then some { value := 0, owed := 2, low := 0xA0 }
  else if b = 0xED then some { value := 13, owed := 2, high := 0x9F }
  else if b < 0xF0 then some { value := b.toNat - 0xE0, owed := 2 }
  else if b = 0xF0 then some { value := 0, owed := 3, low := 0x90 }
  else if b < 0xF4 then some { value := b.toNat - 0xF0, owed := 3 }
  else if b = 0xF4 then some { value := 4, owed := 3, high := 0x8F }
  else none

/-- A text that is being decoded; its characters are kept last one first. -/
structure Decoder where
  chars : List Char := []
  begun : Option Begun := none
  deriving DecidableEq, Repr

namespace Decoder

/-- Decode one more byte, unless no character goes on with it. -/
def push? (d : Decoder) (b : UInt8) : Option Decoder :=
  match d.begun with
  | none =>
    if b < 0x80 then some { d with chars := Char.ofNat b.toNat :: d.chars }
    else (Begun.ofLead? b).map fun begun => { d with begun := some begun }
  | some begun =>
    if begun.low ≤ b ∧ b ≤ begun.high then
      let value := begun.value * 64 + (b.toNat - 0x80)
      if begun.owed ≤ 1 then some { chars := Char.ofNat value :: d.chars }
      else some { d with begun := some { value, owed := begun.owed - 1 } }
    else none

/-- Decode some more bytes. -/
def pushAll? (d : Decoder) (bytes : List UInt8) : Option Decoder :=
  bytes.foldlM push? d

/-- The text, unless a character is incomplete. -/
def text? (d : Decoder) : Option String :=
  if d.begun.isNone then some (String.ofList d.chars.reverse) else none

/-- Replace a character that has begun and does not go on. -/
def giveUp (d : Decoder) : Decoder :=
  if d.begun.isNone then d else { chars := '\uFFFD' :: d.chars }

/-- Decode one more byte; what no character goes on with is replaced. -/
def pushLossy (d : Decoder) (b : UInt8) : Decoder :=
  match d.push? b with
  | some next => next
  | none =>
    let fresh := d.giveUp
    if d.begun.isNone then { fresh with chars := '\uFFFD' :: fresh.chars }
    else (fresh.push? b).getD { fresh with chars := '\uFFFD' :: fresh.chars }

end Decoder

/-- The text that some bytes hold, if they are UTF-8. -/
def decode? (bytes : List UInt8) : Option String :=
  (({} : Decoder).pushAll? bytes).bind Decoder.text?

/-- The text that some bytes hold, with U+FFFD for each longest stretch that begins a character and
does not complete it, and for each other byte that is part of none. -/
def lossy (bytes : List UInt8) : String :=
  String.ofList (bytes.foldl Decoder.pushLossy {}).giveUp.chars.reverse

end EventFeed.Text
