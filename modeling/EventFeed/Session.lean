import EventFeed.Duration

/-!
# Sessions

What is known about one open connection: when it was opened, the frames it brought, its last
heartbeat, and the interval within which the next one is due. Instants are spans since the clock
began.
-/

namespace EventFeed

/-- The state of one open connection. -/
structure Session where
  /-- The generation that opened it. -/
  epoch : Nat
  openedAt : Duration
  interval : Duration
  lastHeartbeat : Option Duration := none
  frames : Nat := 0
  deriving DecidableEq, Repr

namespace Session

/-- Note a frame. -/
def recordFrame (session : Session) : Session :=
  { session with frames := session.frames + 1 }

/-- Note a heartbeat, and take over the interval it asks for, if it does. -/
def recordHeartbeat (session : Session) (now : Duration) (interval : Option Duration) : Session :=
  { session with lastHeartbeat := some now, interval := interval.getD session.interval }

/-- The time since the last heartbeat. -/
def heartbeatAge? (session : Session) (now : Duration) : Option Duration :=
  session.lastHeartbeat.map fun at_ => now - at_

/-- The time since the last sign of life: a heartbeat, or else the opening. -/
def livenessAge (session : Session) (now : Duration) : Duration :=
  now - session.lastHeartbeat.getD session.openedAt

end Session

end EventFeed
