import EventFeed.Backoff
import EventFeed.ConnectionState
import EventFeed.Emitter
import EventFeed.Inbound
import EventFeed.Log
import EventFeed.Request
import EventFeed.Route
import EventFeed.Session
import EventFeed.TransportError

/-!
# The state of a feed

A feed keeps a subscription alive. Every accepted start begins a new generation: a read loop that
connects and reads frames, and a guardian that checks for heartbeats. Generations are numbered by an
epoch that grows with every start and every halt, and a task whose epoch is no longer the current
one stops acting. When a connection is lost, a reconnect task waits out a delay and starts the next
generation.

This module holds the data: what tasks are in the middle of, what subscribers have been told and ask
for, and the journal of everything that can be seen from outside. A task runs from one point where
it waits to the next; the modules beside this one say what it does in between.
-/

namespace EventFeed

/-! ### What is published -/

/-- An envelope with the topic under which it is published. -/
structure RoutedEvent where
  topic : Topic
  envelope : Envelope
  deriving DecidableEq, Repr

/-! ### Subscribers -/

/-- What a subscriber is told. -/
inductive Notice where
  | status (status : ConnectionState)
  | event (event : RoutedEvent)
  deriving DecidableEq, Repr

/-- The name of the status or topic of a notice. -/
def Notice.name : Notice → String
  | .status s => s.name
  | .event e => e.topic.name

/-- What a subscription is about. -/
inductive Target where
  | status
  | events (only : Option Topic)
  deriving DecidableEq, Repr

/-- What a subscriber does when it is told something. Calls that take time are begun at once and go
on in the background. -/
inductive Command where
  | start (retries : UInt32)
  | stop
  | reconnect (delay : Option Duration) (retries : UInt32)
  | disconnect
  | subscribe (target : Target) (name : String) (handler : List Notice → List Command)
  | unsubscribe (name : String)
  | panic (message : String)
  /-- A command that a subscriber carries out at most once under a key. -/
  | once (key : Nat) (command : Command)

/-- What a subscriber does, given all it has been told, the latest first. -/
abbrev Handler := List Notice → List Command

/-- A subscriber, with what it has been told and the keys it has used up. -/
structure Subscriber where
  name : String
  handler : Handler
  heard : List Notice := []
  spent : List Nat := []

/-! ### Tasks -/

/-- What a read loop is in the middle of. -/
inductive LoopPhase where
  | waiting
  | connecting (deadline : Duration)
  | reading (socket : Nat) (interval : Duration) (deadline : Duration)
  | closing (socket : Nat)
  | finished
  deriving DecidableEq, Repr

/-- What a guardian is in the middle of. -/
inductive WatchPhase where
  | waiting
  | asleep (deadline : Duration)
  | finished
  deriving DecidableEq, Repr

/-- What one accepted start has begun: a read loop, a guardian, and the session that the read loop
may have opened. -/
structure Generation where
  epoch : Nat
  loop : LoopPhase := .waiting
  loopAborted : Bool := false
  /-- The read loop was asked to shut down, or nobody is left who could ask. -/
  signalled : Bool := false
  watch : WatchPhase := .waiting
  watchAborted : Bool := false
  session : Option Session := none
  deriving DecidableEq, Repr

/-- What a reconnect is in the middle of. -/
inductive ReconnectPhase where
  | waiting
  | asleep (deadline : Duration) (epoch : Nat)
  | finished
  deriving DecidableEq, Repr

/-- A reconnect, asked for by the caller or scheduled by the feed itself. -/
structure Reconnect where
  scheduled : Bool
  delay : Option Duration
  retries : UInt32
  phase : ReconnectPhase := .waiting
  aborted : Bool := false
  deriving DecidableEq, Repr

/-- What a disconnect is in the middle of. -/
inductive DisconnectPhase where
  | waiting
  | joining (epoch : Nat) (deadline : Duration)
  | finished
  deriving DecidableEq, Repr

/-- A disconnect that the caller asked for. -/
structure Disconnect where
  phase : DisconnectPhase := .waiting
  aborted : Bool := false
  deriving DecidableEq, Repr

/-- A task of the feed. Tasks of a generation go by its epoch, all others by their number. -/
inductive Task where
  | loop (epoch : Nat)
  | watch (epoch : Nat)
  | reconnect (number : Nat)
  | disconnect (number : Nat)
  | refresh (number : Nat)
  deriving DecidableEq, Repr

/-! ### The journal -/

/-- Something that can be seen from outside. -/
inductive Fact where
  | statusChanged (status : ConnectionState)
  | statusPublished (status : ConnectionState)
  | eventPublished (event : RoutedEvent)
  | told (subscriber : Nat) (notice : Notice)
  | unsubscribed (name : String) (removed : Option Bool)
  | connectBegun
  | opened (epoch socket : Nat)
  | closeBegun (socket : Nat)
  | closeDone (socket : Nat)
  | refreshBegun
  | logged (line : LogLine)
  deriving DecidableEq, Repr

/-- A fact and its instant. -/
structure Entry where
  at_ : Duration
  fact : Fact
  deriving DecidableEq, Repr

/-! ### The feed -/

/-- The state of a feed. -/
structure Feed where
  settings : Settings
  request : Request
  /-- Whether somebody wants to know that programs changed. -/
  refreshable : Bool := false
  now : Duration := .zero
  status : ConnectionState := .notStarted
  /-- Listeners for the status, each by the number of its subscriber. -/
  statusListeners : Emitter Nat := { id := 1 }
  /-- Listeners for events, each with the topic it wants and the number of its subscriber. -/
  eventListeners : Emitter (Option Topic × Nat) := { id := 2 }
  subscribers : List Subscriber := []
  /-- The subscriptions under their names, the latest first. -/
  subscriptions : List (String × Handle) := []
  retry : RetryState := {}
  epoch : Nat := 0
  /-- The latest epoch for which a reconnect has been scheduled. -/
  claim : Nat := 0
  /-- The generation whose tasks are held. -/
  slot : Option Nat := none
  /-- The reconnect that was scheduled last. -/
  pending : Option Nat := none
  /-- The generation whose session is installed. -/
  installed : Option Nat := none
  generations : List Generation := []
  reconnects : List Reconnect := []
  disconnects : List Disconnect := []
  /-- Calls of the refresh hook; whether each of them has been made. -/
  refreshes : List Bool := []
  streamId : Option String := none
  programKey : Option String := none
  /-- The task that ran last and has not waited since. -/
  current : Option Task := none
  /-- What can be seen from outside, the latest first. -/
  journal : List Entry := []

namespace Feed

/-- A feed that has not been started. -/
def ofSettings (settings : Settings) (refreshable : Bool) : Except SettingsError Feed := do
  settings.validate
  let request ← Request.ofSettings settings
  return { settings, request, refreshable }

/-- The delays before attempts. -/
def backoff (f : Feed) : Backoff :=
  .ofSettings f.settings

/-- Add a fact to the journal. -/
def note (f : Feed) (fact : Fact) : Feed :=
  { f with journal := ⟨f.now, fact⟩ :: f.journal }

/-- Add a line to the log. -/
def log (f : Feed) (level : LogLevel) (message : String) (fields : List (String × String))
    (error : Option String := none) : Feed :=
  f.note (.logged { level, message, fields, error })

/-- The instant at which a span that begins now has passed. -/
def after (f : Feed) (span : Duration) : Duration :=
  f.now + span

/-! ### Generations and sessions -/

/-- The generation of an epoch. -/
def generation? (f : Feed) (epoch : Nat) : Option Generation :=
  f.generations.find? fun g => g.epoch = epoch

/-- Change the generation of an epoch. -/
def changeGeneration (f : Feed) (epoch : Nat) (change : Generation → Generation) : Feed :=
  { f with generations := f.generations.map fun g => if g.epoch = epoch then change g else g }

/-- Let the read loop of an epoch go on to a phase. -/
def setLoop (f : Feed) (epoch : Nat) (phase : LoopPhase) : Feed :=
  f.changeGeneration epoch fun g => { g with loop := phase }

/-- Let the guardian of an epoch go on to a phase. -/
def setWatch (f : Feed) (epoch : Nat) (phase : WatchPhase) : Feed :=
  f.changeGeneration epoch fun g => { g with watch := phase }

/-- The session that the read loop of an epoch opened. -/
def sessionOf? (f : Feed) (epoch : Nat) : Option Session :=
  (f.generation? epoch).bind Generation.session

/-- Change the session of an epoch. -/
def changeSession (f : Feed) (epoch : Nat) (change : Session → Session) : Feed :=
  f.changeGeneration epoch fun g => { g with session := g.session.map change }

/-- The session that is installed. -/
def session? (f : Feed) : Option Session :=
  f.installed.bind f.sessionOf?

/-- The interval of the installed session, or else the one of the settings. -/
def heartbeatInterval (f : Feed) : Duration :=
  (f.session?.map Session.interval).getD f.settings.heartbeatInterval

/-- Whether a session has seen a heartbeat. -/
def hasHeartbeat (f : Feed) : Bool :=
  f.session?.any fun session => session.lastHeartbeat.isSome

/-- The time since the last heartbeat of the installed session. -/
def heartbeatAge? (f : Feed) : Option Duration :=
  f.session?.bind fun session => session.heartbeatAge? f.now

/-- Let a reconnect go on to a phase. -/
def setReconnect (f : Feed) (number : Nat) (phase : ReconnectPhase) : Feed :=
  { f with reconnects := f.reconnects.modify number fun r => { r with phase } }

/-- Let a disconnect go on to a phase. -/
def setDisconnect (f : Feed) (number : Nat) (phase : DisconnectPhase) : Feed :=
  { f with disconnects := f.disconnects.modify number fun d => { d with phase } }

/-- Whether a task has been aborted. -/
def isAborted (f : Feed) : Task → Bool
  | .loop epoch => (f.generation? epoch).any Generation.loopAborted
  | .watch epoch => (f.generation? epoch).any Generation.watchAborted
  | .reconnect number => (f.reconnects[number]?).any Reconnect.aborted
  | .disconnect number => (f.disconnects[number]?).any Disconnect.aborted
  | .refresh _ => false

/-- Whether a task may run on: an aborted one only until it waits. -/
def mayRun (f : Feed) (task : Task) : Bool :=
  !f.isAborted task || f.current = some task

/-- Whether the read loop of an epoch has come to its end, or was aborted and waits. -/
def loopEnded (f : Feed) (epoch : Nat) : Bool :=
  (f.generation? epoch).any fun g =>
    g.loop = .finished || (g.loopAborted && f.current != some (.loop epoch))

/-! ### Subscriptions -/

/-- Register a subscriber under a name. -/
def subscribe (f : Feed) (target : Target) (name : String) (handler : Handler) : Feed :=
  let number := f.subscribers.length
  let f := { f with subscribers := f.subscribers ++ [({ name, handler } : Subscriber)] }
  match target with
  | .status =>
    let (handle, statusListeners) := f.statusListeners.subscribe number
    { f with statusListeners, subscriptions := (name, handle) :: f.subscriptions }
  | .events only =>
    let (handle, eventListeners) := f.eventListeners.subscribe (only, number)
    { f with eventListeners, subscriptions := (name, handle) :: f.subscriptions }

/-- Remove the subscription of a handle; whether there was one to remove. -/
def unsubscribe (f : Feed) (handle : Handle) : Bool × Feed :=
  let (removed, eventListeners) := f.eventListeners.unsubscribe handle
  if removed then (true, { f with eventListeners })
  else
    let (removed, statusListeners) := f.statusListeners.unsubscribe handle
    (removed, { f with statusListeners })

/-- Remove the latest subscription of a name; none when there never was one. -/
def unsubscribeName (f : Feed) (name : String) : Option Bool × Feed :=
  match f.subscriptions.lookup name with
  | none => (none, f)
  | some handle =>
    let (removed, f) := f.unsubscribe handle
    (some removed, f)

end Feed

end EventFeed
