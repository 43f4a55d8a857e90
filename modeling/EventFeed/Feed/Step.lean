import EventFeed.Feed.Handlers
import EventFeed.Feed.Tasks

/-!
# Steps

Everything that can happen to a feed, as events: a call of the caller, a task that runs from the
point where it waits to the next one, the clock that moves on, a call that the caller gives up. An
event that cannot happen in a state leads nowhere. What the connection does is part of the events,
and so is the order in which tasks run; a run of the feed is any list of events that can happen one
after the other.

A task that is aborted while it runs goes on until it waits. `current` names the task that has not
waited since it ran last, and such a task may take what is ready at once.
-/

namespace EventFeed

/-- What a caller asks for. -/
inductive Call where
  | start (retries : UInt32)
  | stop
  | reconnect (delay : Option Duration) (retries : UInt32)
  | disconnect
  | subscribe (target : Target) (name : String) (handler : Handler)
  | unsubscribe (handle : Handle)
  | publishStatus (status : ConnectionState)
  | publishEvent (event : RoutedEvent)
  | release

/-- What a task wakes up with. -/
inductive Wake where
  /-- It runs for the first time. -/
  | first
  | connected (socket : Nat)
  | connectFailed (error : TransportError)
  /-- A span has passed: the time to connect, to receive a frame, to sleep, or to wait for
  the end. -/
  | elapsed
  | shutdown
  | frame (frame : Inbound)
  | readFailed (error : TransportError)
  | ended
  | closed
  | joined
  | refreshed (error : Option String)
  | panicked

/-- Something that can happen to a feed. -/
inductive Event where
  | call (call : Call)
  | run (task : Task) (wake : Wake)
  | tick (now : Duration)
  /-- The caller gives up a reconnect or disconnect that is under way. -/
  | giveUp (task : Task)

namespace Feed

/-- Do what a caller asks for. Calls that take time are only noted; their first part is a step of
its own. -/
def doCall (respond : Respond) (f : Feed) : Call → Feed
  | .start retries => f.start respond retries
  | .stop => f.stop respond
  | .reconnect delay retries => (f.addReconnect delay retries).2
  | .disconnect => f.addDisconnect.2
  | .subscribe target name handler => f.subscribe target name handler
  | .unsubscribe handle => (f.unsubscribe handle).2
  | .publishStatus status => (publishStatus respond status f).2
  | .publishEvent event => (publishEvent respond event f).2
  | .release => f.release

/-- The next state of a read loop in a phase. -/
def stepLoop (respond : Respond) (g : Generation) (f : Feed) : Wake → Option Feed
  | .first => if g.loop = .waiting then some (f.beginLoop g.epoch) else none
  | .connected socket =>
    match g.loop with
    | .connecting _ => some (f.loopConnected respond g.epoch socket)
    | _ => none
  | .connectFailed e =>
    match g.loop with
    | .connecting _ => some (f.failLoop respond g.epoch e)
    | _ => none
  | .elapsed =>
    match g.loop with
    | .connecting deadline =>
      if deadline ≤ f.now then
        some (f.failLoop respond g.epoch (.connectTimeout f.settings.connectTimeout))
      else none
    | .reading _ interval deadline =>
      if deadline ≤ f.now then some (f.failLoop respond g.epoch (.receiveTimeout interval))
      else none
    | _ => none
  | .shutdown =>
    if g.signalled then
      match g.loop with
      | .waiting | .connecting _ => some (f.setLoop g.epoch .finished)
      | .reading socket _ _ => some (f.beginClose g.epoch socket)
      | _ => none
    else none
  | .frame frame =>
    match g.loop with
    | .reading socket _ _ => some (f.loopFrame respond g.epoch socket frame)
    | _ => none
  | .readFailed e =>
    match g.loop with
    | .reading _ _ _ => some (f.failLoop respond g.epoch e)
    | _ => none
  | .ended =>
    match g.loop with
    | .reading _ _ _ => some (f.failLoop respond g.epoch .unexpectedEof)
    | _ => none
  | .closed =>
    match g.loop with
    | .closing socket => some (f.loopClosed g.epoch socket)
    | _ => none
  | .panicked =>
    match g.loop with
    | .waiting | .finished => none
    | _ => some (f.setLoop g.epoch .finished)
  | .joined | .refreshed _ => none

/-- The next state of a guardian in a phase. -/
def stepWatch (respond : Respond) (g : Generation) (f : Feed) : Wake → Option Feed
  | .first => if g.watch = .waiting then some (f.watchAgain g.epoch) else none
  | .elapsed =>
    match g.watch with
    | .asleep deadline => if deadline ≤ f.now then some (f.watchWoke respond g.epoch) else none
    | _ => none
  | _ => none

/-- The next state of a reconnect in a phase. -/
def stepReconnect (respond : Respond) (number : Nat) (r : Reconnect) (f : Feed) :
    Wake → Option Feed
  | .first => if r.phase = .waiting then some (f.beginReconnect respond number r) else none
  | .elapsed =>
    match r.phase with
    | .asleep deadline epoch =>
      if deadline ≤ f.now then some (f.endReconnect respond number epoch r) else none
    | _ => none
  | _ => none

/-- The next state of a disconnect in a phase. -/
def stepDisconnect (respond : Respond) (number : Nat) (d : Disconnect) (f : Feed) :
    Wake → Option Feed
  | .first => if d.phase = .waiting then some (f.beginDisconnect respond number) else none
  | .joined =>
    match d.phase with
    | .joining epoch _ => if f.loopEnded epoch then some (f.endDisconnect respond number) else none
    | _ => none
  | .elapsed =>
    match d.phase with
    | .joining epoch deadline =>
      if deadline ≤ f.now then some (f.abandonDisconnect respond number epoch) else none
    | _ => none
  | _ => none

/-- The call of the refresh hook, and what comes of it. -/
def stepRefresh (number : Nat) (f : Feed) : Wake → Option Feed
  | .refreshed error =>
    if f.refreshes[number]? = some false then
      let f := { f with refreshes := f.refreshes.set number true }.note .refreshBegun
      some (match error with
        | none => f
        | some message => f.log .warn ("Program refresh failed: " ++ message) [])
    else none
  | _ => none

/-- Run a task that wakes up, if it may run and can wake up that way. -/
def runTask (respond : Respond) (task : Task) (wake : Wake) (f : Feed) : Option Feed :=
  if f.mayRun task then
    let f := { f with current := some task }
    match task with
    | .loop epoch => (f.generation? epoch).bind fun g => f.stepLoop respond g wake
    | .watch epoch => (f.generation? epoch).bind fun g => f.stepWatch respond g wake
    | .reconnect number => (f.reconnects[number]?).bind fun r =>
        f.stepReconnect respond number r wake
    | .disconnect number => (f.disconnects[number]?).bind fun d =>
        f.stepDisconnect respond number d wake
    | .refresh number => f.stepRefresh number wake
  else none

/-- Give up a reconnect or disconnect that the caller asked for. -/
def giveUp (f : Feed) : Task → Option Feed
  | .reconnect number =>
    if (f.reconnects[number]?).any fun r => !r.scheduled then
      some { f with
        reconnects := f.reconnects.modify number fun r => { r with aborted := true } }
    else none
  | .disconnect number =>
    if number < f.disconnects.length then
      some { f with
        disconnects := f.disconnects.modify number fun d => { d with aborted := true } }
    else none
  | _ => none

/-- The state after an event, if the event can happen; handlers are asked down to the
depth bound. -/
def step? (depth : Nat) (f : Feed) : Event → Option Feed
  | .call call => some ({ f with current := none }.doCall (respond depth) call)
  | .run task wake => f.runTask (respond depth) task wake
  | .tick now => if f.now ≤ now then some { f with now, current := none } else none
  | .giveUp task => { f with current := none }.giveUp task

/-- The state after some events, if they can happen one after the other. -/
def run? (depth : Nat) (f : Feed) (events : List Event) : Option Feed :=
  events.foldlM (step? depth) f

end Feed

end EventFeed
