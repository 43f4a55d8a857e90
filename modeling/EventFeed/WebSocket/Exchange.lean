import EventFeed.WebSocket.Connection
import EventFeed.WebSocket.Upgrade

/-!
# Exchanges

A whole conversation with a server that listens at a port, sends its response and its frames at once
and then nothing more. An exchange records what the server gets to see and what comes of it.
-/

namespace EventFeed.WebSocket

/-- A server: where it listens, and all it sends to a client that is due an accept value. -/
structure Server where
  port : Nat
  sends : String → List UInt8

/-- What comes of a conversation. -/
structure Exchange where
  /-- The request that was sent, if one was. -/
  asked : Option Upgrade := none
  failure : Option OpeningError := none
  frames : List Inbound := []
  /-- What followed the frames; none when the connection was closed from this side. -/
  ending : Option Arrival := none
  sent : List Frame := []

/-- Ask for so many frames, or fewer when something else arrives first. -/
def Connection.receive : Nat → Connection → List Inbound × Option Arrival × Connection
  | 0, c => ([], none, c)
  | n + 1, c =>
    match c.next with
    | (.frame frame, c) =>
      let (frames, ending, c) := c.receive n
      (frame :: frames, ending, c)
    | (ending, c) => ([], some ending, c)

namespace Exchange

/-- Open a connection: the request that was sent, if one was, and what became of it. -/
def establish (request : Request) (key : String) (server : Option Server) :
    Option Upgrade × Except OpeningError Connection :=
  match Upgrade.ofRequest request key with
  | .error e => (none, .error e)
  | .ok upgrade =>
    match server.filter fun server => server.port == upgrade.port with
    | none => (none, .error .refused)
    | some server =>
      match upgrade.checkSendable with
      | .error e => (none, .error e)
      | .ok () =>
        (some upgrade, (upgrade.readResponse (server.sends upgrade.accept)).map fun rest =>
          { unread := rest })

/-- A conversation that is closed from this side after so many frames, or goes on to its end: each
frame takes up at least a byte. -/
def run (request : Request) (key : String) (server : Option Server) (closeAfter : Option Nat) :
    Exchange :=
  match establish request key server with
  | (asked, .error failure) => { asked, failure := some failure }
  | (asked, .ok connection) =>
    let (frames, ending, connection) :=
      connection.receive (closeAfter.getD (connection.unread.length + 1))
    let connection := if ending.isNone then connection.close else connection
    { asked, frames, ending, sent := connection.sent }

end Exchange

end EventFeed.WebSocket
