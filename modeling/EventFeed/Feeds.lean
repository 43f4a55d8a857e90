import EventFeed.Feed.Step

/-!
# Several feeds

Every emitter goes by a number of its own, and the numbers are given in turn to whichever emitter is
made next. A feed takes one for its status and then one for its events. Emitters that belong to no
feed take numbers as well, before it, between the two and after it; a feed that cannot be made takes
none.
-/

namespace EventFeed

/-- A feed with other numbers for its emitters. -/
def Feed.numbered (f : Feed) (status events : Nat) : Feed :=
  { f with
    statusListeners := { f.statusListeners with id := status }
    eventListeners := { f.eventListeners with id := events } }

/-- Feeds side by side, and the number for the emitter that is made next. -/
structure Feeds where
  all : List Feed := []
  nextEmitter : Nat := 1

namespace Feeds

/-- An emitter is made that belongs to no feed. -/
def passEmitter (feeds : Feeds) : Feeds :=
  { feeds with nextEmitter := feeds.nextEmitter + 1 }

/-- Make a feed. Others make some emitters between its one for the status and its one for events. -/
def create (settings : Settings) (refreshable : Bool) (between : Nat) (feeds : Feeds) :
    Except SettingsError Feeds := do
  let f ← Feed.ofSettings settings refreshable
  let status := feeds.nextEmitter
  let events := status + 1 + between
  return { all := feeds.all ++ [f.numbered status events], nextEmitter := events + 1 }

/-- The feeds after an event at one of them, if the event can happen there. -/
def step? (depth : Nat) (feeds : Feeds) (place : Nat) (event : Event) : Option Feeds := do
  let f ← feeds.all[place]?
  let g ← f.step? depth event
  return { feeds with all := feeds.all.set place g }

/-- The feeds after some events at their places, if they can happen one after the other. -/
def run? (depth : Nat) (feeds : Feeds) (events : List (Nat × Event)) : Option Feeds :=
  events.foldlM (fun feeds event => feeds.step? depth event.1 event.2) feeds

end Feeds

end EventFeed
