import EventFeed.Inbound
import EventFeed.Text.Utf8
import EventFeed.TransportError
import EventFeed.WebSocket.Frame

/-!
# Web socket connections

A connection that is open: what has arrived and is not read yet, the message whose pieces have not
all come, and the answer that is owed. A ping is answered by a pong, and the first close frame by a
close frame; the answer goes out when the next frame is asked for. The pieces of a text are checked
as they come.
-/

namespace EventFeed.WebSocket

/-- A message whose pieces have not all come. -/
inductive Message where
  | text (decoder : Text.Decoder) (size : Nat)
  | binary (bytes : List UInt8)
  deriving DecidableEq, Repr

namespace Message

/-- The longest message. -/
def maxSize : Nat := 67108864

/-- The bytes of the pieces so far. -/
def size : Message → Nat
  | text _ size => size
  | binary bytes => bytes.length

/-- Add a piece. -/
def add (m : Message) (piece : List UInt8) : Except StreamFault Message :=
  if maxSize < m.size + piece.length then .error (.tooLong (m.size + piece.length) maxSize)
  else match m with
    | text decoder size =>
      match decoder.pushAll? piece with
      | some decoder => .ok (text decoder (size + piece.length))
      | none => .error .notText
    | binary bytes => .ok (binary (bytes ++ piece))

/-- The message, when all its pieces have come. -/
def complete : Message → Except StreamFault Inbound
  | text decoder _ =>
    match decoder.text? with
    | some content => .ok (.text content)
    | none => .error .notText
  | binary bytes => .ok (.binary bytes)

end Message

/-- How far a connection is from its end. -/
inductive Stage where
  | active
  | closedByUs
  | closedByServer
  /-- The server has answered our close frame. -/
  | acknowledged
  deriving DecidableEq, Repr

/-- An open connection. -/
structure Connection where
  unread : List UInt8
  stage : Stage := .active
  message : Option Message := none
  owed : Option Frame := none
  /-- The frames that have been sent, the first one first. -/
  sent : List Frame := []
  deriving DecidableEq, Repr

/-- What comes of asking for the next frame. -/
inductive Arrival where
  | frame (frame : Inbound)
  | ended
  | failed (error : TransportError)
  deriving DecidableEq, Repr

namespace Connection

/-- Send a frame. -/
def send (c : Connection) (frame : Frame) : Connection :=
  { c with sent := c.sent ++ [frame] }

/-- Send the answer that is owed. -/
def answer (c : Connection) : Connection :=
  match c.owed with
  | none => c
  | some frame => { c with owed := none }.send frame

/-- Whether a close code may be used between the two sides. -/
def isAllowedCode (code : Nat) : Bool :=
  (1000 ≤ code && code < 5000) &&
    !(1004 ≤ code && code ≤ 1006) && !(1014 ≤ code && code < 3000)

/-- What a close frame says; a code that may not be used becomes a complaint. -/
def readClose (payload : List UInt8) : Except StreamFault (Option CloseInfo) :=
  match payload with
  | [] => .ok none
  | [_] => .error .shortClose
  | a :: b :: reason =>
    match Text.decode? reason with
    | none => .error .notText
    | some reason => .ok (some { code := Bytes.number [a, b], reason })

/-- What is made of a close frame with a code that may not be used. -/
def complaint : CloseInfo where
  code := 1002
  reason := "Protocol violation"

/-- Take in a close frame. -/
def takeClose (c : Connection) (info : Option CloseInfo) : Inbound × Connection :=
  if c.stage = .active then
    let info := info.map fun info => if isAllowedCode info.code then info else complaint
    (.close info,
      { c with
        stage := .closedByServer
        owed := some (.close (info.map fun info => (info.code, info.reason))) })
  else (.close info, { c with stage := .acknowledged })

/-- Take in a piece of a message, which may complete it. -/
def takePiece (c : Connection) (final : Bool) (message : Message) (piece : List UInt8) :
    Except StreamFault (Option Inbound × Connection) := do
  let message ← message.add piece
  if final then return (some (← message.complete), { c with message := none })
  else return (none, { c with message := some message })

/-- Take in a frame. -/
def take (c : Connection) (f : Frame) : Except StreamFault (Option Inbound × Connection) :=
  if c.stage = .closedByServer ∨ c.stage = .acknowledged then .error .afterClose
  else if f.reserved then .error .reservedBits
  else if f.masked then .error .masked
  else if f.kind.isControl then
    if !f.final then .error .splitControl
    else if 125 < f.payload.length then .error .longControl
    else match f.kind with
      | .close => do
        let (frame, c) := c.takeClose (← readClose f.payload)
        return (some frame, c)
      | .ping =>
        .ok (some .ping,
          if c.stage = .active then { c with owed := some (.pong f.payload) } else c)
      | _ => .ok (some .pong, c)
  else match f.kind, c.message with
    | .more, some message => c.takePiece f.final message f.payload
    | .more, none => .error .nothingToContinue
    | kind, some _ => .error (.pieceExpected kind)
    | .text, none => c.takePiece f.final (.text {} 0) f.payload
    | _, none => c.takePiece f.final (.binary []) f.payload

/-- What the end of the data means. -/
def atEnd (c : Connection) : Arrival :=
  match c.stage with
  | .closedByServer | .acknowledged => .ended
  | .active | .closedByUs => .failed .unexpectedEof

/-- Ask for the next frame, of a connection at which nothing more will arrive than is there. Pieces
that do not complete a message are taken in on the way. -/
def next (c : Connection) : Arrival × Connection :=
  match Frame.read c.unread with
  | .error fault => (.failed (.stream fault.message), c.answer)
  | .ok none => (c.atEnd, { c.answer with unread := [] })
  | .ok (some (frame, rest)) =>
    match c.answer.take frame with
    | .error fault => (.failed (.stream fault.message), c.answer)
    | .ok (some frame, c) => (.frame frame, { c with unread := rest })
    | .ok (none, c) => { c with unread := rest.val }.next
termination_by c.unread.length
decreasing_by exact rest.property

/-- Close the connection from this side, unless the server has closed it. -/
def close (c : Connection) : Connection :=
  if c.stage = .active then ({ c with stage := .closedByUs }.send (.close none)).answer else c

end Connection

end EventFeed.WebSocket
