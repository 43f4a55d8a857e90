import EventFeed.Feed.Basic

/-!
# Notifications and status changes

Telling subscribers about the status and about events, and changing the status. A change is
published before the call that made it goes on, and a subscriber may call the feed back while it is
being told. What subscribers do is a parameter here: a `Respond`.
-/

namespace EventFeed

/-- What the subscriber of a number does when it is told something. -/
abbrev Respond := Nat → Notice → Feed → Completion × Feed

namespace Feed

/-- Report the panic of a listener. -/
def reportPanic (listener : Nat) (message : String) (f : Feed) : Feed :=
  f.note (.logged (.panicked listener message))

/-- What listeners for the status do. -/
def statusReaction (respond : Respond) : Reaction Feed Nat ConnectionState where
  accepts _ _ f := (.accepted, f)
  handle number status f := respond number (.status status) f
  report := reportPanic

/-- What listeners for events do; one that wants a topic refuses all others. -/
def eventReaction (respond : Respond) : Reaction Feed (Option Topic × Nat) RoutedEvent where
  accepts what event f := (if what.1.all (· = event.topic) then .accepted else .refused, f)
  handle what event f := respond what.2 (.event event) f
  report := reportPanic

/-- Tell the listeners for the status; how many handlers ran to completion. -/
def publishStatus (respond : Respond) (status : ConnectionState) (f : Feed) : Nat × Feed :=
  Emitter.publish Feed.statusListeners (statusReaction respond) status
    (f.note (.statusPublished status))

/-- Tell the listeners for events; how many handlers ran to completion. -/
def publishEvent (respond : Respond) (event : RoutedEvent) (f : Feed) : Nat × Feed :=
  Emitter.publish Feed.eventListeners (eventReaction respond) event
    (f.note (.eventPublished event))

/-- Go on to the status `next` where the feed allows it, and tell the listeners; whether the status
changed. -/
def transition (respond : Respond) (allowed : Feed → Bool) (next : ConnectionState) (f : Feed) :
    Bool × Feed :=
  if f.status = next || !allowed f then (false, f)
  else
    let f := { f with status := next }.note (.statusChanged next)
    (true, (publishStatus respond next f).2)

/-- Go on to the status `next` in any case. -/
def setStatus (respond : Respond) (next : ConnectionState) (f : Feed) : Feed :=
  (transition respond (fun _ => true) next f).2

/-- Whether background work of an epoch may still change the status. -/
def isLive (epoch : Nat) (f : Feed) : Bool :=
  !f.status.isHalted && f.epoch = epoch

end Feed

end EventFeed
