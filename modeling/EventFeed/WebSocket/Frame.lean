import EventFeed.Bytes

/-!
# Web socket frames

The units that a web socket carries: a header, with the kind of the frame and the length of what it
carries, and the bytes it carries. A header can be refused before the frame is complete; what else
may be wrong with a frame is looked at when all of it is there.
-/

namespace EventFeed.WebSocket

/-- The kind of a frame. -/
inductive Kind where
  /-- A further piece of a message. -/
  | more
  | text
  | binary
  | close
  | ping
  | pong
  deriving DecidableEq, Repr

namespace Kind

/-- The number of a kind. -/
def code : Kind → Nat
  | more => 0
  | text => 1
  | binary => 2
  | close => 8
  | ping => 9
  | pong => 10

/-- The kind of a number. -/
def ofCode? (n : Nat) : Option Kind :=
  [more, text, binary, close, ping, pong].find? fun kind => kind.code == n

/-- Whether frames of the kind stand outside messages. -/
def isControl (kind : Kind) : Bool :=
  8 ≤ kind.code

/-- The name of a kind in errors. -/
def name : Kind → String
  | more => "CONTINUE"
  | text => "TEXT"
  | binary => "BINARY"
  | close => "CLOSE"
  | ping => "PING"
  | pong => "PONG"

@[simp] theorem ofCode?_code (kind : Kind) : ofCode? kind.code = some kind := by
  cases kind <;> rfl

end Kind

/-- What is wrong with what the server sends. -/
inductive StreamFault where
  | invalidKind (code : Nat)
  | tooLong (size limit : Nat)
  | afterClose
  | reservedBits
  | masked
  | splitControl
  | longControl
  | shortClose
  | notText
  | nothingToContinue
  | pieceExpected (kind : Kind)
  deriving DecidableEq, Repr

/-- The text of a fault. -/
def StreamFault.message : StreamFault → String
  | tooLong size limit =>
    "Space limit exceeded: Message too long: " ++ toString size ++ " > " ++ toString limit
  | notText => "UTF-8 encoding error"
  | fault => "WebSocket protocol error: " ++ match fault with
    | invalidKind code => "Encountered invalid opcode: " ++ toString code
    | afterClose => "Remote sent after having closed"
    | reservedBits => "Reserved bits are non-zero"
    | masked => "Received a masked frame from server"
    | splitControl => "Fragmented control frame"
    | longControl => "Control frame too big (payload must be 125 bytes or less)"
    | shortClose => "Invalid close sequence"
    | nothingToContinue => "Continue frame but nothing to continue"
    | pieceExpected kind => "While waiting for more fragments received: " ++ kind.name
    | tooLong _ _ | notText => ""

/-- A frame. -/
structure Frame where
  /-- Whether the frame ends its message. -/
  final : Bool := true
  reserved : Bool := false
  masked : Bool := false
  kind : Kind
  payload : List UInt8
  deriving DecidableEq, Repr

namespace Frame

/-- The longest payload. -/
def maxPayload : Nat := 16777216

/-- How many bytes behind the first two write the length of the payload. -/
def extraLength (second : UInt8) : Nat :=
  match second.toNat % 128 with
  | 126 => 2
  | 127 => 8
  | _ => 0

/-- The length of the payload. -/
def payloadLength (second : UInt8) (extra : List UInt8) : Nat :=
  if extra.isEmpty then second.toNat % 128 else Bytes.number extra

/-- Read a frame and what follows it; none while some of it has still to come. The payload of a
masked frame is left as it is. -/
def read (bytes : List UInt8) :
    Except StreamFault (Option (Frame × { rest : List UInt8 // rest.length < bytes.length })) :=
  match bytes with
  | first :: second :: tail =>
    match h₁ : Bytes.split? (extraLength second) tail with
    | none => .ok none
    | some (extra, afterLength) =>
      let isMasked := 128 ≤ second.toNat
      match h₂ : Bytes.split? (if isMasked then 4 else 0) afterLength with
      | none => .ok none
      | some (_, body) =>
        match Kind.ofCode? (first.toNat % 16) with
        | none => .error (.invalidKind (first.toNat % 16))
        | some kind =>
          let size := payloadLength second extra
          if maxPayload < size then .error (.tooLong size maxPayload)
          else match h₃ : Bytes.split? size body with
            | none => .ok none
            | some (payload, rest) =>
              .ok (some (
                { final := 128 ≤ first.toNat
                  reserved := first.toNat / 16 % 8 ≠ 0
                  masked := isMasked
                  kind, payload },
                ⟨rest, by
                  have l₁ := Bytes.length_of_split? h₁
                  have l₂ := Bytes.length_of_split? h₂
                  have l₃ := Bytes.length_of_split? h₃
                  simp only [List.length_cons]
                  omega⟩))
  | _ => .ok none

/-- The frame that answers a ping. -/
def pong (payload : List UInt8) : Frame := { kind := .pong, payload }

/-- A frame that closes, with a code and a reason or without. -/
def close : Option (Nat × String) → Frame
  | none => { kind := .close, payload := [] }
  | some (code, reason) =>
    { kind := .close, payload := Bytes.ofNumber 2 code ++ reason.toUTF8.data.toList }

end Frame

end EventFeed.WebSocket
