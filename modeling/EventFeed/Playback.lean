import EventFeed.Feed.Step

/-!
# Playback

A feed beside a scripted network, on a clock that moves only when it is told to. The script says
what each attempt to connect leads to, and frames are put into the queues of open sockets. Playback
picks one order in which tasks run: first come, first served, and a task runs on for as long as
something is ready for it. The clock stops at every instant at which a task is due; instants have
whole milliseconds, so a task that is due in between runs at the next one. A read loop that is asked
to shut down while there is a frame to read reads the frame.

Every move of a playback is a step of the feed.
-/

namespace EventFeed

/-- What an attempt to connect leads to. -/
structure Attempt where
  /-- The time it takes; no time means that it never ends. -/
  takes : Option Duration := some .zero
  failure : Option TransportError := none
  /-- The time that closing the socket takes. -/
  closing : Duration := .zero

/-- What a connection ends with when no attempt is scripted. -/
def Attempt.refused : Attempt where
  failure := some (.connector "connection refused")

/-- An open socket. -/
structure Socket where
  closing : Duration
  queue : List (Except TransportError Inbound) := []
  ended : Bool := false
  closedAt : Option Duration := none

/-- A feed, the network around it, and the tasks that wait for their turn. -/
structure Playback where
  feed : Feed
  depth : Nat
  attempts : List Attempt := []
  /-- The attempts under way, by epoch, each with the instant of its end. -/
  connecting : List (Nat × Option Duration × Attempt) := []
  sockets : List Socket := []
  /-- What a call of the refresh hook leads to. -/
  refreshError : Option String := none
  queue : List Task := []

namespace Playback

/-! ### What is ready -/

/-- Whether an instant has come. -/
def isDue (p : Playback) (deadline : Duration) : Bool :=
  decide (deadline ≤ p.feed.now)

/-- What the read loop of a generation would wake up with. -/
def loopWake? (p : Playback) (g : Generation) : Option Wake :=
  match g.loop with
  | .finished => none
  | .waiting => some (if g.signalled then .shutdown else .first)
  | .connecting deadline =>
    if g.signalled then some .shutdown
    else match p.connecting.lookup g.epoch with
      | some (some ends, attempt) =>
        if p.isDue ends then
          some (match attempt.failure with
            | some e => .connectFailed e
            | none => .connected p.sockets.length)
        else if p.isDue deadline then some .elapsed
        else none
      | _ => if p.isDue deadline then some .elapsed else none
  | .reading number _ deadline =>
    match p.sockets[number]? with
    | none => if g.signalled then some .shutdown else none
    | some socket =>
      match socket.queue with
      | .ok frame :: _ => some (.frame frame)
      | .error e :: _ => some (.readFailed e)
      | [] =>
        if g.signalled then some .shutdown
        else if socket.ended then some .ended
        else if p.isDue deadline then some .elapsed
        else none
  | .closing number =>
    if ((p.sockets[number]?).bind Socket.closedAt).any p.isDue then some .closed else none

/-- What a task would wake up with. -/
def wake? (p : Playback) (task : Task) : Option Wake :=
  if !p.feed.mayRun task then none
  else match task with
    | .loop epoch => (p.feed.generation? epoch).bind p.loopWake?
    | .watch epoch =>
      match (p.feed.generation? epoch).map Generation.watch with
      | some .waiting => some .first
      | some (.asleep deadline) => if p.isDue deadline then some .elapsed else none
      | _ => none
    | .reconnect number =>
      match (p.feed.reconnects[number]?).map Reconnect.phase with
      | some .waiting => some .first
      | some (.asleep deadline _) => if p.isDue deadline then some .elapsed else none
      | _ => none
    | .disconnect number =>
      match (p.feed.disconnects[number]?).map Disconnect.phase with
      | some .waiting => some .first
      | some (.joining epoch deadline) =>
        if p.feed.loopEnded epoch then some .joined
        else if p.isDue deadline then some .elapsed
        else none
      | _ => none
    | .refresh number =>
      if p.feed.refreshes[number]? = some false then some (.refreshed p.refreshError) else none

/-- All tasks there are. -/
def tasks (p : Playback) : List Task :=
  (List.range p.feed.refreshes.length).map .refresh ++
    p.feed.generations.flatMap (fun g => [.loop g.epoch, .watch g.epoch]) ++
    (List.range p.feed.reconnects.length).map .reconnect ++
    (List.range p.feed.disconnects.length).map .disconnect

/-- Let the tasks that have become ready queue up. A task that was aborted does not run again. -/
def enqueue (p : Playback) : Playback :=
  let p := { p with feed := { p.feed with current := none } }
  { p with queue := p.queue ++ p.tasks.filter fun task =>
      (p.wake? task).isSome && !p.queue.contains task }

/-! ### Moves -/

/-- Take the next frame out of the queue of a socket. -/
def popFrame (p : Playback) (number : Nat) : Playback :=
  { p with sockets := p.sockets.modify number fun s => { s with queue := s.queue.drop 1 } }

/-- What the network does when the read loop of a generation wakes up. -/
def network (p : Playback) (g : Generation) (wake : Wake) : Playback :=
  match wake, g.loop with
  | .first, _ =>
    let attempt := (p.attempts.head?).getD .refused
    { p with
      attempts := p.attempts.drop 1
      connecting := (g.epoch, attempt.takes.map (p.feed.now + ·), attempt) :: p.connecting }
  | .connected _, _ =>
    let closing := ((p.connecting.lookup g.epoch).map fun entry => entry.2.closing).getD .zero
    { p with sockets := p.sockets ++ [{ closing }] }
  | .frame _, .reading number _ _ => p.popFrame number
  | .readFailed _, .reading number _ _ => p.popFrame number
  | _, _ => p

/-- Note when the socket that a read loop has begun to close will be closed. -/
def noteClosing (p : Playback) (epoch : Nat) : Playback :=
  match (p.feed.generation? epoch).map Generation.loop with
  | some (.closing number) =>
    { p with sockets := p.sockets.modify number fun s =>
        { s with closedAt := s.closedAt.or (some (p.feed.now + s.closing)) } }
  | _ => p

/-- Let a task wake up once. -/
def wakeUp (p : Playback) (task : Task) (wake : Wake) : Playback :=
  match p.feed.step? p.depth (.run task wake) with
  | none => p
  | some feed =>
    match task with
    | .loop epoch =>
      let p := match p.feed.generation? epoch with
        | none => p
        | some g => p.network g wake
      { p with feed }.noteClosing epoch
    | _ => { p with feed }

/-- Run a task for as long as something is ready for it. -/
def runOn (task : Task) : Nat → Playback → Playback
  | 0, p => p
  | fuel + 1, p =>
    match p.wake? task with
    | none => p
    | some wake => runOn task fuel (p.wakeUp task wake)

/-- The number of moves after which playback gives up on an instant. -/
def patience : Nat := 1000000000

/-- Run tasks until nothing is ready. -/
def settle : Nat → Playback → Playback
  | 0, p => p
  | fuel + 1, p =>
    let p := p.enqueue
    match p.queue with
    | [] => p
    | task :: rest => settle fuel (runOn task patience { p with queue := rest })

/-! ### Time -/

/-- The instants at which a task is due. -/
def deadlines (p : Playback) (task : Task) : List Duration :=
  if p.feed.isAborted task then []
  else match task with
    | .loop epoch =>
      match (p.feed.generation? epoch).map Generation.loop with
      | some (.connecting deadline) =>
        deadline :: (((p.connecting.lookup epoch).bind fun entry => entry.1).toList)
      | some (.reading _ _ deadline) => [deadline]
      | some (.closing number) => ((p.sockets[number]?).bind Socket.closedAt).toList
      | _ => []
    | .watch epoch =>
      match (p.feed.generation? epoch).map Generation.watch with
      | some (.asleep deadline) => [deadline]
      | _ => []
    | .reconnect number =>
      match (p.feed.reconnects[number]?).map Reconnect.phase with
      | some (.asleep deadline _) => [deadline]
      | _ => []
    | .disconnect number =>
      match (p.feed.disconnects[number]?).map Disconnect.phase with
      | some (.joining _ deadline) => [deadline]
      | _ => []
    | .refresh _ => []

/-- The next instant at which a task is due. -/
def nextInstant? (p : Playback) : Option Duration :=
  ((p.tasks.flatMap p.deadlines).map fun d => Duration.ofMillis d.millisUp).foldl
    (fun best d =>
      if d ≤ p.feed.now then best
      else match best with
        | none => some d
        | some b => some (if d < b then d else b))
    none

/-- Move the clock. -/
def tick (p : Playback) (now : Duration) : Playback :=
  match p.feed.step? p.depth (.tick now) with
  | none => p
  | some feed => { p with feed }

/-- Move the clock to an instant, and let every task run that is due on the way. -/
def advanceTo (goal : Duration) : Nat → Playback → Playback
  | 0, p => p
  | fuel + 1, p =>
    let p := settle patience p
    match p.nextInstant? with
    | some instant =>
      if instant ≤ goal then advanceTo goal fuel (p.tick instant) else p.tick goal
    | none => p.tick goal

/-- Whether a call of the caller has come to its end. -/
def isOver (p : Playback) : Task → Bool
  | .reconnect number => (p.feed.reconnects[number]?).all fun r => r.phase = .finished
  | .disconnect number => (p.feed.disconnects[number]?).all fun d => d.phase = .finished
  | _ => true

/-- Let time pass until a call has come to its end. -/
def await (task : Task) : Nat → Playback → Playback
  | 0, p => p
  | fuel + 1, p =>
    let p := settle patience p
    if p.isOver task then p
    else match p.nextInstant? with
      | none => p
      | some instant => await task fuel (p.tick instant)

/-! ### The script -/

/-- A playback of a feed that nobody has started, with one subscriber for the status and one for all
events, who only listen. -/
def ofFeed (feed : Feed) (depth : Nat) (attempts : List Attempt) (refreshError : Option String) :
    Playback :=
  let listen (_ : List Notice) : List Command := []
  { feed := (feed.subscribe .status "" listen).subscribe (.events none) "" listen
    depth, attempts, refreshError }

/-- Do what a caller asks for. -/
def call (p : Playback) (c : Call) : Playback :=
  match p.feed.step? p.depth (.call c) with
  | none => p
  | some feed => { p with feed }

/-- Let everything happen that can happen without time passing. -/
def rest (p : Playback) : Playback :=
  settle patience p

/-- Let time pass. -/
def advance (p : Playback) (span : Duration) : Playback :=
  (advanceTo (p.feed.now + span) patience p).rest

/-- Whether the feed still holds a socket. -/
def holds (p : Playback) (number : Nat) : Bool :=
  p.feed.generations.any fun g =>
    !g.loopAborted && match g.loop with
      | .reading socket _ _ => socket = number
      | .closing socket => socket = number
      | _ => false

/-- Put something into the queue of a socket; whether the feed still held it. -/
def put (p : Playback) (number : Nat) (item : Except TransportError Inbound) : Bool × Playback :=
  if p.holds number then
    (true, { p with sockets := p.sockets.modify number fun s =>
      { s with queue := s.queue ++ [item] } })
  else (false, p)

/-- End the stream of a socket. -/
def finish (p : Playback) (number : Nat) : Playback :=
  { p with sockets := p.sockets.modify number fun s => { s with ended := true } }

end Playback

end EventFeed
