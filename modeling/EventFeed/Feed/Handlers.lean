import EventFeed.Feed.Operations

/-!
# Subscribers at work

What happens when a subscriber is told something: the notice goes into the journal, and the commands
of its handler are carried out one after the other, up to the first panic. A command may change the
status, and then subscribers are told in the middle of being told; `respond` bounds how deep that
goes.
-/

namespace EventFeed.Feed

/-- Use up a key of a subscriber; whether it was still there. -/
def spend (number key : Nat) (f : Feed) : Bool × Feed :=
  if (f.subscribers[number]?).any fun s => s.spent.contains key then (false, f)
  else
    (true, { f with
      subscribers := f.subscribers.modify number fun s => { s with spent := key :: s.spent } })

/-- Carry out a command of a subscriber. -/
def obey (respond : Respond) (number : Nat) : Command → Feed → Completion × Feed
  | .start retries, f => (.completed, f.start respond retries)
  | .stop, f => (.completed, f.stop respond)
  | .reconnect delay retries, f =>
    let (id, f) := f.addReconnect delay retries
    (.completed, f.beginReconnect respond id { scheduled := false, delay, retries })
  | .disconnect, f =>
    let (id, f) := f.addDisconnect
    (.completed, f.beginDisconnect respond id)
  | .subscribe target name handler, f => (.completed, f.subscribe target name handler)
  | .unsubscribe name, f =>
    let (removed, f) := f.unsubscribeName name
    (.completed, f.note (.unsubscribed name removed))
  | .panic message, f => (.panicked message, f)
  | .once key command, f =>
    match f.spend number key with
    | (false, f) => (.completed, f)
    | (true, f) => obey respond number command f

/-- Carry out commands of a subscriber, up to the first panic. -/
def obeyAll (respond : Respond) (number : Nat) : List Command → Feed → Completion × Feed
  | [], f => (.completed, f)
  | command :: rest, f =>
    match f.obey respond number command with
    | (.completed, f) => obeyAll respond number rest f
    | (.panicked message, f) => (.panicked message, f)

/-- Note that a subscriber is told something, and remember it for the subscriber. -/
def tell (number : Nat) (notice : Notice) (f : Feed) : Feed :=
  { f.note (.told number notice) with
    subscribers := f.subscribers.modify number fun s => { s with heard := notice :: s.heard } }

/-- Tell a subscriber something. Below the depth bound its handler is asked what to do. -/
def respond : Nat → Respond
  | 0, number, notice, f => (.completed, f.tell number notice)
  | depth + 1, number, notice, f =>
    let f := f.tell number notice
    match f.subscribers[number]? with
    | none => (.completed, f)
    | some subscriber => f.obeyAll (respond depth) number (subscriber.handler subscriber.heard)

end EventFeed.Feed
