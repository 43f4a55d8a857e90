/-!
# Connection states

The status of the feed as its listeners see it. In a halted state the feed stays until the caller
asks for something else.
-/

namespace EventFeed

/-- The status of the feed. -/
inductive ConnectionState where
  | notStarted
  /-- A connection is being opened. -/
  | initializing
  | connected
  /-- The connection failed, and another attempt is on its way. -/
  | lostConnection
  /-- The delay before the next attempt. -/
  | reconnecting
  /-- The connection is being closed on request. -/
  | disconnecting
  | disconnected
  /-- Stopped by the caller. -/
  | stopUpdates
  /-- Kept for users of the feed that give up; the feed itself never gets there. -/
  | reconnectFailed
  deriving DecidableEq, Repr, Inhabited

namespace ConnectionState

/-- All states. -/
def all : List ConnectionState :=
  [notStarted, initializing, connected, lostConnection, reconnecting, disconnecting, disconnected,
    stopUpdates, reconnectFailed]

/-- The name of a state. -/
def name : ConnectionState → String
  | notStarted => "not_started"
  | initializing => "stream_initializing"
  | connected => "connected"
  | lostConnection => "lost_connection"
  | reconnecting => "reconnecting"
  | disconnecting => "stream_disconnecting"
  | disconnected => "disconnected"
  | stopUpdates => "stop_updates"
  | reconnectFailed => "reconnect_failed"

/-- The state of a name. -/
def ofName? (name : String) : Option ConnectionState :=
  all.find? fun state => state.name = name

/-- The states that background work never leaves. -/
def isHalted : ConnectionState → Bool
  | stopUpdates | disconnecting | disconnected => true
  | _ => false

end ConnectionState

end EventFeed
