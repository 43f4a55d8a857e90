import EventFeed.Feed.Status

/-!
# Operations

What callers ask for: start, stop, reconnect, disconnect; and the two ways in which the feed itself
moves on, a lost connection and an opened session. Reconnect and disconnect take time, so they come
in two parts, before and after the wait.
-/

namespace EventFeed.Feed

/-! ### Halting -/

/-- Abort the tasks that are held, if there are any, and let go of them. -/
def abortSlot (f : Feed) : Feed :=
  match f.slot with
  | none => f
  | some epoch =>
    { f.changeGeneration epoch fun g =>
        { g with loopAborted := true, watchAborted := true, signalled := true } with
      slot := none }

/-- Abort the running tasks and forget the session; whatever was begun before is out of date. -/
def haltTasks (f : Feed) : Feed :=
  { f.abortSlot with epoch := f.epoch + 1, installed := none }

/-- Abort the reconnect that was scheduled last. -/
def abortPending (f : Feed) : Feed :=
  match f.pending with
  | none => f
  | some number =>
    { f with
      pending := none
      reconnects := f.reconnects.modify number fun r => { r with aborted := true } }

/-- Stop the feed. -/
def stop (respond : Respond) (f : Feed) : Feed :=
  (f.setStatus respond .stopUpdates).abortPending.haltTasks

/-- The caller lets go of the feed: its tasks are aborted, and nobody is told. -/
def release (f : Feed) : Feed :=
  f.abortPending.haltTasks

/-! ### Starting -/

/-- Begin a generation unless the status forbids it; whether one was begun. -/
def startWhere (respond : Respond) (allowed : Feed → Bool) (retries : UInt32) (f : Feed) :
    Bool × Feed :=
  let (accepted, f) := transition respond allowed .initializing f
  if !accepted || f.status ≠ .initializing then (false, f)
  else
    let f := f.abortSlot
    let epoch := f.epoch + 1
    (true, { f with
      epoch
      retry := { attempt := retries }
      generations := f.generations ++ [{ epoch }]
      slot := some epoch })

/-- Start the feed, which a caller may do unless it is connected. -/
def start (respond : Respond) (retries : UInt32) (f : Feed) : Feed :=
  (startWhere respond (fun f => f.status ≠ .connected) retries f).2

/-- Start the feed at the end of a reconnect delay. -/
def restart (respond : Respond) (retries : UInt32) (f : Feed) : Feed :=
  (startWhere respond (fun f => f.status = .reconnecting) retries f).2

/-! ### Reconnecting -/

/-- Fall asleep until a reconnect goes on, which is after its own delay or the one of
the schedule. -/
def sleepReconnect (number : Nat) (r : Reconnect) (f : Feed) : Feed :=
  let delay := r.delay.getD (f.backoff.delayFor r.retries)
  let f := f.log .info "Reconnecting event stream"
    [("delay_ms", toString delay.millisCounter.toNat), ("attempt", toString r.retries.toNat)]
  f.setReconnect number (.asleep (f.after delay) f.epoch)

/-- The first part of a reconnect: halt what runs, say so, and fall asleep. A scheduled one is
dropped when the feed has been halted. -/
def beginReconnect (respond : Respond) (number : Nat) (r : Reconnect) (f : Feed) : Feed :=
  let f := f.haltTasks
  if r.scheduled then
    let (moved, f) := transition respond (fun f => !f.status.isHalted) .reconnecting f
    if !moved && f.status ≠ .reconnecting then f.setReconnect number .finished
    else f.sleepReconnect number r
  else (f.setStatus respond .reconnecting).sleepReconnect number r

/-- The second part of a reconnect: start again, unless something else happened in between. -/
def endReconnect (respond : Respond) (number epoch : Nat) (r : Reconnect) (f : Feed) : Feed :=
  let f := f.setReconnect number .finished
  if f.epoch = epoch then restart respond (f.backoff.nextAttempt r.retries) f else f

/-- Schedule a reconnect for an epoch, unless there is one already or the epoch is out of date. -/
def scheduleReconnect (epoch : Nat) (retries : UInt32) (f : Feed) : Feed :=
  if f.epoch ≠ epoch || epoch ≤ f.claim then f
  else
    { f with
      claim := epoch
      pending := some f.reconnects.length
      reconnects := f.reconnects ++ [{ scheduled := true, delay := none, retries }] }

/-- A task of an epoch reports that the connection is lost. The first report of a live
epoch counts. -/
def connectionLost (respond : Respond) (epoch : Nat) (retries : UInt32) (f : Feed) : Feed :=
  let (lost, f) := transition respond (isLive epoch) .lostConnection f
  if lost then f.scheduleReconnect epoch retries else f

/-- Ask for a reconnect; its number. -/
def addReconnect (delay : Option Duration) (retries : UInt32) (f : Feed) : Nat × Feed :=
  (f.reconnects.length,
    { f with reconnects := f.reconnects ++ [{ scheduled := false, delay, retries }] })

/-! ### Sessions -/

/-- A read loop has opened a session: install it and say that the feed is connected. False when the
epoch is out of date or the feed has been halted meanwhile. -/
def sessionOpened (respond : Respond) (epoch : Nat) (f : Feed) : Bool × Feed :=
  if f.epoch ≠ epoch then (false, f)
  else
    let f := { f with installed := some epoch, retry := f.retry.reset }
    let (connected, f) := transition respond (isLive epoch) .connected f
    if !connected && f.installed = some epoch then (false, { f with installed := none })
    else (connected, f)

/-! ### Disconnecting -/

/-- The last part of a disconnect. -/
def endDisconnect (respond : Respond) (number : Nat) (f : Feed) : Feed :=
  ({ f with installed := none }.setStatus respond .disconnected).setDisconnect number .finished

/-- The first part of a disconnect: stop the guardian, ask the read loop to close its socket, and
wait for it. -/
def beginDisconnect (respond : Respond) (number : Nat) (f : Feed) : Feed :=
  let f := (f.setStatus respond .disconnecting).abortPending
  let slot := f.slot
  let f := { f with slot := none, epoch := f.epoch + 1 }
  match slot with
  | none => f.endDisconnect respond number
  | some epoch =>
    let f := f.changeGeneration epoch fun g =>
      { g with watchAborted := true, signalled := true }
    f.setDisconnect number (.joining epoch (f.after f.settings.shutdownTimeout))

/-- The read loop did not close its socket in time: abort it. -/
def abandonDisconnect (respond : Respond) (number epoch : Nat) (f : Feed) : Feed :=
  let f := f.log .warn "Read loop did not close in time, aborting"
    [("timeout_ms", toString f.settings.shutdownTimeout.millisCounter.toNat)]
  (f.changeGeneration epoch fun g => { g with loopAborted := true }).endDisconnect respond number

/-- Ask for a disconnect; its number. -/
def addDisconnect (f : Feed) : Nat × Feed :=
  (f.disconnects.length, { f with disconnects := f.disconnects ++ [{}] })

end EventFeed.Feed
