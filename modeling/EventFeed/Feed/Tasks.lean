import EventFeed.Feed.Operations

/-!
# The read loop and the guardian

The background tasks of a generation. The read loop connects, installs a session and reads frames
until the connection fails or it is asked to shut down. The guardian wakes up once per heartbeat
interval and reports a loss when the read loop has ended or no heartbeat came in time.
-/

namespace EventFeed.Feed

/-! ### Frames -/

/-- Take over the stream id of a frame; a new one means that the controller began anew. -/
def observeStreamId (id : Option String) (f : Feed) : Feed :=
  match id, f.streamId with
  | none, _ => f
  | some id, none => { f with streamId := some id }
  | some id, some previous =>
    if previous = id then f
    else
      { f.log .info "Device reset the event stream" [("previous", previous), ("sid", id)] with
        streamId := some id }

/-- Spawn a call of the refresh hook, if there is one. -/
def requestRefresh (f : Feed) : Feed :=
  if f.refreshable then { f with refreshes := f.refreshes ++ [false] } else f

/-- Do what a route asks for. -/
def follow (respond : Respond) (epoch : Nat) (envelope : Envelope) (f : Feed) : Route → Feed
  | .heartbeat interval => f.changeSession epoch fun s => s.recordHeartbeat f.now interval
  | .publish topic => (publishEvent respond ⟨topic, envelope⟩ f).2
  | .cacheProgramKey key => { f with programKey := some key }
  | .refreshPrograms none => f.requestRefresh
  | .refreshPrograms (some key) => { f with programKey := some key }.requestRefresh
  | .discard _ => f

/-- Take in a text frame of the session of an epoch. -/
def dispatch (respond : Respond) (epoch : Nat) (raw : String) (f : Feed) : Feed :=
  let f := f.changeSession epoch Session.recordFrame
  match Envelope.classify raw with
  | .error e => f.log .warn ("Dropping malformed frame: " ++ e.message) []
  | .ok envelope =>
    (f.observeStreamId envelope.streamId).follow respond epoch envelope (Route.ofEnvelope envelope)

/-! ### The read loop -/

/-- The fields that name an epoch in the log. -/
def epochField (epoch : Nat) : String × String :=
  ("epoch", toString epoch)

/-- The read loop ends with an error, which is reported as its severity asks for, and then as a lost
connection. -/
def failLoop (respond : Respond) (epoch : Nat) (e : TransportError) (f : Feed) : Feed :=
  let f := f.setLoop epoch .finished
  let f := match e.severity with
    | .debug => f
    | .warn => f.log .warn ("Event stream failed: " ++ e.message) [epochField epoch]
    | .error =>
      f.log .error ("Event stream error: " ++ e.message) [epochField epoch] (some e.text)
  f.connectionLost respond epoch f.retry.attempt

/-- Begin to connect. -/
def beginLoop (epoch : Nat) (f : Feed) : Feed :=
  (f.note .connectBegun).setLoop epoch (.connecting (f.after f.settings.connectTimeout))

/-- Wait for the next frame, for as long as the interval of the session allows. -/
def awaitFrame (epoch socket : Nat) (f : Feed) : Feed :=
  let interval := ((f.sessionOf? epoch).map Session.interval).getD f.settings.heartbeatInterval
  f.setLoop epoch (.reading socket interval (f.after interval))

/-- Begin to close a socket. -/
def beginClose (epoch socket : Nat) (f : Feed) : Feed :=
  (f.note (.closeBegun socket)).setLoop epoch (.closing socket)

/-- A socket has been opened: install a session and begin to read, or close the socket when the
generation is out of date. -/
def loopConnected (respond : Respond) (epoch socket : Nat) (f : Feed) : Feed :=
  let session : Session :=
    { epoch, openedAt := f.now, interval := f.settings.heartbeatInterval }
  let f := (f.note (.opened epoch socket)).changeGeneration epoch fun g =>
    { g with session := some session }
  let (opened, f) := sessionOpened respond epoch f
  if opened then
    (f.log .info "Event stream connected" [epochField epoch, ("url", f.request.url)]).awaitFrame
      epoch socket
  else f.beginClose epoch socket

/-- A frame has arrived. -/
def loopFrame (respond : Respond) (epoch socket : Nat) (frame : Inbound) (f : Feed) : Feed :=
  match frame with
  | .text content => (f.dispatch respond epoch content).awaitFrame epoch socket
  | .close none => f.failLoop respond epoch (.closed none "")
  | .close (some info) => f.failLoop respond epoch (.closed (some info.code) info.reason)
  | .binary bytes =>
    (f.log .warn "Ignoring unexpected binary frame"
      [epochField epoch, ("len", toString bytes.length)]).awaitFrame epoch socket
  | .ping | .pong => f.awaitFrame epoch socket

/-- A socket has been closed cleanly. -/
def loopClosed (epoch socket : Nat) (f : Feed) : Feed :=
  (f.note (.closeDone socket)).setLoop epoch .finished

/-! ### The guardian -/

/-- Fall asleep for a heartbeat interval, unless the feed has been stopped. -/
def watchAgain (epoch : Nat) (f : Feed) : Feed :=
  f.setWatch epoch
    (if f.status = .stopUpdates then .finished else .asleep (f.after f.heartbeatInterval))

/-- Whether a generation has gone quiet: its read loop has ended, or the last sign of life is older
than the interval. A generation that is still connecting is left to the connect timeout. -/
def isStale (epoch : Nat) (f : Feed) : Bool :=
  (f.slot = some epoch && f.loopEnded epoch) ||
    (f.session?.filter fun s => s.epoch = epoch).any fun s =>
      decide (f.heartbeatInterval < s.livenessAge f.now)

/-- The guardian wakes up. -/
def watchWoke (respond : Respond) (epoch : Nat) (f : Feed) : Feed :=
  if f.epoch ≠ epoch then f.setWatch epoch .finished
  else if f.isStale epoch then (f.setWatch epoch .finished).connectionLost respond epoch 0
  else f.watchAgain epoch

end EventFeed.Feed
