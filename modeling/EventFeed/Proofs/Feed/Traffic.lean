import EventFeed.Proofs.Feed.Apart
import EventFeed.Proofs.Feed.Superseded

/-!
# What connections see of a feed

Connections are a matter of read loops alone. A read loop begins to connect, it opens a socket and
waits for frames from it, it begins to close the socket and has closed it; or it leaves off at some
point, and then its socket is dropped without being closed. No operation has a part in this, neither
of the caller nor of subscribers, and no other task has.

`Serves` says what a read loop does in one turn, by the phase in which it is. Between the opening of
a socket and its closing there is at most one read loop that waits for a frame from it, and that is
why a socket is closed no more often than it has been opened. A read loop that begins to close its
socket is past reading from then on.
-/

namespace EventFeed

/-- A fact is about a connection. -/
def Fact.isTraffic : Fact → Bool
  | .connectBegun | .opened _ _ | .closeBegun _ | .closeDone _ => true
  | _ => false

/-- The socket that has been opened. -/
def Fact.opened? : Fact → Option Nat
  | .opened _ socket => some socket
  | _ => none

/-- The socket from which a read loop waits for a frame. -/
def LoopPhase.socket? : LoopPhase → Option Nat
  | .reading socket _ _ => some socket
  | _ => none

/-- How many frames of a socket a read loop waits for in a phase, which is one or none. -/
def LoopPhase.awaits (phase : LoopPhase) (socket : Nat) : Nat :=
  if phase.socket? = some socket then 1 else 0

/-- What the read loop of an epoch does to connections in one turn: the facts that it adds, the
latest first, and the phase to which it goes on. -/
inductive LoopPhase.Serves (epoch : Nat) : LoopPhase → List Fact → LoopPhase → Prop
  | connects (deadline : Duration) : Serves epoch .waiting [.connectBegun] (.connecting deadline)
  | opens {deadline : Duration} (socket : Nat) (interval due : Duration) :
      Serves epoch (.connecting deadline) [.opened epoch socket] (.reading socket interval due)
  | refuses {deadline : Duration} (socket : Nat) :
      Serves epoch (.connecting deadline) [.closeBegun socket, .opened epoch socket]
        (.closing socket)
  | reads {socket : Nat} {interval due : Duration} (interval' due' : Duration) :
      Serves epoch (.reading socket interval due) [] (.reading socket interval' due')
  | shuts {socket : Nat} {interval due : Duration} :
      Serves epoch (.reading socket interval due) [.closeBegun socket] (.closing socket)
  | closes {socket : Nat} : Serves epoch (.closing socket) [.closeDone socket] .finished
  | leaves {phase : LoopPhase} : Serves epoch phase [] .finished

namespace Feed

variable {may : Conduct} {respond : Respond} {f f' g : Feed}

/-- What has been done to connections, the latest first. -/
def traffic (f : Feed) : List Fact :=
  (f.journal.map Entry.fact).filter Fact.isTraffic

/-- How many times a socket has been opened. -/
def opens (f : Feed) (socket : Nat) : Nat :=
  f.traffic.countP fun fact => fact.opened? = some socket

/-- How many times the closing of a socket has been begun. -/
def closes (f : Feed) (socket : Nat) : Nat :=
  f.traffic.countP fun fact => fact = .closeBegun socket

/-- How many read loops wait for a frame from a socket. -/
def readers (f : Feed) (socket : Nat) : Nat :=
  f.generations.countP fun g => g.loop.socket? = some socket

/-- What connections see is the feed's own. -/
@[simp] lemma traffic_engine (f : Feed) : f.engine.traffic = f.traffic := by
  unfold traffic engine
  rw [List.filter_map, List.filter_map, List.filter_filter]
  congr 2
  funext entry
  cases h : entry.fact <;> simp [Fact.isTraffic, Fact.isOwn, h]

/-- Attempts to connect are among what connections see. -/
lemma connects_eq (f : Feed) :
    f.connects = f.traffic.countP fun fact => fact = .connectBegun := by
  unfold connects traffic
  rw [List.countP_filter, List.countP_map]
  refine List.countP_congr fun entry _ => ?_
  cases h : entry.fact <;> simp [Fact.isTraffic, h]

/-! ### Operations -/

/-- Nothing has happened to connections, and as many read loops wait for frames as before. -/
structure Calm (f g : Feed) : Prop where
  traffic : g.traffic = f.traffic
  readers : ∀ socket, g.readers socket = f.readers socket

lemma Calm.trans {h : Feed} (hf : Calm f g) (hg : Calm g h) : Calm f h :=
  ⟨hg.traffic.trans hf.traffic, fun socket => (hg.readers socket).trans (hf.readers socket)⟩

/-- Generations that change keep connections calm, as long as read loops stay in their phases. -/
lemma calm_map {c : Generation → Generation} (hc : ∀ k, (c k).loop = k.loop)
    (generations : g.generations = f.generations.map c) (traffic : g.traffic = f.traffic) :
    Calm f g := by
  refine ⟨traffic, fun socket => ?_⟩
  unfold Feed.readers
  rw [generations, List.countP_map]
  refine List.countP_congr fun k _ => ?_
  simp [Function.comp_apply, hc]

/-- Neither the journal nor generations have changed. -/
lemma Calm.of_eq (he : (g.journal, g.generations) = (f.journal, f.generations)) : Calm f g := by
  obtain ⟨journal, generations⟩ := Prod.mk.inj he
  refine ⟨?_, fun socket => ?_⟩
  · unfold Feed.traffic
    rw [journal]
  · unfold Feed.readers
    rw [generations]

/-- What is noted of other things keeps connections calm. -/
lemma calm_note {fact : Fact} (h : fact.isTraffic = false) : Calm f (f.note fact) :=
  ⟨by simp [Feed.traffic, note, h], fun _ => rfl⟩

/-- What happens to subscribers alone keeps connections calm. -/
lemma calm_of_engine (he : g.engine = f.engine) : Calm f g where
  traffic := eq_of_engine he Feed.traffic fun k => traffic_engine k
  readers socket := eq_of_engine he (fun k => k.readers socket) fun _ => rfl

/-- An announcement keeps connections calm. -/
lemma calm_announce (s : ConnectionState) (f : Feed) : Calm f (f.announce s) := by
  have hstatus : Calm f { f with status := s } := .of_eq rfl
  exact (hstatus.trans (calm_note rfl)).trans (calm_note rfl)

/-- Aborting the tasks that are held keeps connections calm. -/
lemma calm_abortSlot (f : Feed) : Calm f f.abortSlot := by
  rw [abortSlot_eq]
  exact calm_map (fun k => by split <;> rfl) rfl rfl

/-- Halting keeps connections calm. -/
lemma calm_haltTasks (f : Feed) : Calm f f.haltTasks := by
  rw [haltTasks_eq]
  exact calm_map (fun k => by split <;> rfl) rfl rfl

/-- Aborting the scheduled reconnect keeps connections calm. -/
lemma calm_abortPending (f : Feed) : Calm f f.abortPending := by
  rw [abortPending_eq]
  exact .of_eq rfl

/-- A generation that begins waits for no frame. -/
lemma calm_generate (retries : UInt32) (f : Feed) : Calm f (f.generate retries) := by
  refine (calm_abortSlot f).trans ⟨rfl, fun socket => ?_⟩
  unfold Feed.readers generate
  simp [List.countP_append, LoopPhase.socket?]

/-- No part of an operation has to do with connections. -/
lemma partwise_calm : Partwise Calm where
  trans := Calm.trans
  aside := calm_of_engine
  announce := calm_announce
  noteStatus _ _ := calm_note rfl
  noteEvent _ _ := calm_note rfl
  haltTasks := calm_haltTasks
  abortPending := calm_abortPending
  generate := calm_generate
  addReconnect _ _ _ := .of_eq rfl
  setReconnect _ _ _ := .of_eq rfl
  addDisconnect _ := .of_eq rfl
  setDisconnect _ _ _ := .of_eq rfl
  uninstall _ := .of_eq rfl
  passEpoch _ := .of_eq rfl
  letGo _ _ := calm_map (fun k => by split <;> rfl) rfl rfl

/-! ### Turns of read loops -/

/-- The read loop of a generation has added facts to those about connections, and it has gone on to
a phase; no other read loop waits for other frames than before. -/
structure Turned (k : Generation) (facts : List Fact) (phase : LoopPhase) (f g : Feed) : Prop where
  traffic : g.traffic = facts ++ f.traffic
  readers : ∀ socket,
    g.readers socket + k.loop.awaits socket = f.readers socket + phase.awaits socket
  loop : ∃ k' ∈ g.generations, k'.epoch = k.epoch ∧ k'.loop = phase

/-- The read loop of a generation goes on to a phase, and no other one does. -/
lemma readers_setLoop {k : Generation} (hf : f.generations.Pairwise fun i j => i.epoch < j.epoch)
    (hk : k ∈ f.generations) (phase : LoopPhase) (socket : Nat) :
    (f.setLoop k.epoch phase).readers socket + k.loop.awaits socket =
      f.readers socket + phase.awaits socket := by
  obtain ⟨front, back, he⟩ := List.append_of_mem hk
  rw [he, List.pairwise_append, List.pairwise_cons] at hf
  obtain ⟨-, ⟨hback, -⟩, hfront⟩ := hf
  have hsame : ∀ {js : List Generation}, (∀ j ∈ js, j.epoch ≠ k.epoch) →
      (js.map fun j => if j.epoch = k.epoch then { j with loop := phase } else j) = js := by
    intro js hjs
    conv => rhs; rw [← List.map_id js]
    exact List.map_congr_left fun j hj => if_neg (hjs j hj)
  have hgen : (f.setLoop k.epoch phase).generations =
      front ++ { k with loop := phase } :: back := by
    unfold setLoop changeGeneration
    dsimp only
    rw [he, List.map_append, List.map_cons, if_pos rfl,
      hsame fun j hj => Nat.ne_of_lt (hfront j hj k List.mem_cons_self),
      hsame fun j hj => Nat.ne_of_gt (hback j hj)]
  unfold readers LoopPhase.awaits
  rw [hgen, he]
  simp only [List.countP_append, List.countP_cons, decide_eq_true_eq]
  omega

/-- What comes before a read loop goes on to its phase. -/
lemma Turned.setLoop {k : Generation} {facts : List Fact} {j : Feed}
    (htraffic : j.traffic = facts ++ f.traffic)
    (hreaders : ∀ socket, j.readers socket = f.readers socket)
    (hj : j.generations.Pairwise fun i j => i.epoch < j.epoch)
    (hk : ∃ i ∈ j.generations, i.epoch = k.epoch ∧ i.loop = k.loop) (phase : LoopPhase) :
    Turned k facts phase f (j.setLoop k.epoch phase) := by
  obtain ⟨i, hi, hie, hil⟩ := hk
  refine ⟨htraffic, fun socket => ?_, ⟨_, List.mem_map_of_mem hi, ?_⟩⟩
  · rw [← hreaders socket, ← hil, ← hie]
    exact readers_setLoop hj hi phase socket
  · rw [if_pos hie]
    exact ⟨hie, rfl⟩

/-- What operations do afterwards is of no account. -/
lemma Turned.trans {k : Generation} {facts : List Fact} {phase : LoopPhase} {h : Feed}
    (hg : Turned k facts phase f g) (hl : g.Later h) (hc : Calm g h) :
    Turned k facts phase f h where
  traffic := hc.traffic.trans hg.traffic
  readers socket := by
    rw [hc.readers socket]
    exact hg.readers socket
  loop := by
    obtain ⟨i, hi, hie, hip⟩ := hg.loop
    obtain ⟨i', hi', hli⟩ := hl.generations i hi
    exact ⟨i', hi', hli.epoch.trans hie, hli.loop.trans hip⟩

/-- Neither is a reconnect that is scheduled. -/
lemma Turned.scheduleReconnect {k : Generation} {facts : List Fact} {phase : LoopPhase}
    (hg : Turned k facts phase f g) (epoch : Nat) (retries : UInt32) :
    Turned k facts phase f (g.scheduleReconnect epoch retries) := by
  rcases scheduleReconnect_cases epoch retries g with ⟨-, hs⟩ | ⟨-, -, hs⟩
  · rwa [hs]
  · rw [hs]
    exact ⟨hg.traffic, hg.readers, hg.loop⟩

section Steps

variable (hr : Respects (WellFormed may) (fun _ f g => f.Later g ∧ Calm f g) respond)

include hr

/-- The report of a loss keeps connections calm. -/
lemma calm_connectionLost (hf : f.WellFormed may) (epoch : Nat) (retries : UInt32) :
    Calm f (f.connectionLost respond epoch retries) := by
  rcases connectionLost_cases respond epoch retries f with ⟨-, he⟩ | ⟨-, -, k, ht, he⟩
  · rw [he]
    exact .of_eq rfl
  · rw [he]
    have hk := partwise_calm.told hr.and.2 ht hf
    rcases scheduleReconnect_cases epoch retries k with ⟨-, hs⟩ | ⟨-, -, hs⟩
    · rwa [hs]
    · rw [hs]
      exact hk.trans (.of_eq rfl)

omit hr in
/-- A session that takes note of something keeps connections calm. -/
lemma calm_changeSession (e : Nat) (change : Session → Session) (f : Feed) :
    Calm f (f.changeSession e change) :=
  calm_map (fun k => by split <;> rfl) rfl rfl

omit hr in
/-- Taking over a stream id keeps connections calm. -/
lemma calm_observeStreamId (id : Option String) (f : Feed) : Calm f (f.observeStreamId id) := by
  unfold observeStreamId
  split
  · exact .of_eq rfl
  · exact .of_eq rfl
  · split
    · exact .of_eq rfl
    · have hlog : ∀ fields, Calm f (f.log .info "Device reset the event stream" fields) :=
        fun fields => calm_of_engine (engine_log f _ _ fields)
      exact (hlog _).trans (.of_eq rfl)

omit hr in
/-- Asking for the programs keeps connections calm. -/
lemma calm_requestRefresh (f : Feed) : Calm f f.requestRefresh := by
  unfold requestRefresh
  split <;> exact .of_eq rfl

/-- A text frame keeps connections calm, whatever it asks for. -/
lemma calm_dispatch (hf : f.WellFormed may) (e : Nat) (raw : String) :
    Calm f (f.dispatch respond e raw) := by
  have hframe := calm_changeSession e Session.recordFrame f
  unfold dispatch
  dsimp only
  split
  · exact hframe.trans (calm_of_engine (engine_log _ _ _ _))
  · next envelope _ =>
    have hid := hframe.trans (calm_observeStreamId envelope.streamId _)
    have hnoted : f.Busy (f.changeSession e Session.recordFrame) := busy_changeSession fun _ => rfl
    have hbusy := hnoted.trans (busy_observeStreamId envelope.streamId _)
    generalize (f.changeSession e Session.recordFrame).observeStreamId envelope.streamId = j
      at hid hbusy
    cases Route.ofEnvelope envelope with
    | heartbeat interval => exact hid.trans (calm_changeSession e _ j)
    | publish topic => exact hid.trans (partwise_calm.publishEvent hr.and.2 _ (hf.busy hbusy))
    | cacheProgramKey key => exact hid.trans (.of_eq rfl)
    | refreshPrograms key? =>
      cases key? with
      | none => exact hid.trans (calm_requestRefresh j)
      | some key =>
        have hkey : Calm j { j with programKey := some key } := .of_eq rfl
        exact (hid.trans hkey).trans (calm_requestRefresh _)
    | discard _ => exact hid

/-- A text frame leaves read loops in their phases, and generations in their order. -/
lemma dispatch_keeps (hf : f.WellFormed may) (e : Nat) (raw : String) {k : Generation}
    (hk : k ∈ f.generations) :
    (f.dispatch respond e raw).WellFormed may ∧
      ∃ i ∈ (f.dispatch respond e raw).generations, i.epoch = k.epoch ∧ i.loop = k.loop := by
  obtain ⟨j, hb, hgen, hj⟩ := dispatch_hears respond e raw f
  have hjw := hf.busy hb
  obtain ⟨i, hi, hie, hil⟩ : ∃ i ∈ j.generations, i.epoch = k.epoch ∧ i.loop = k.loop := by
    rw [hgen]
    refine ⟨_, List.mem_map_of_mem hk, ?_⟩
    split <;> exact ⟨rfl, rfl⟩
  rcases hj with he | ⟨event, he⟩
  · rw [he]
    exact ⟨hjw, i, hi, hie, hil⟩
  · rw [he]
    obtain ⟨hw, hl⟩ := upkeep_publishEvent hr.and.1 hjw event
    obtain ⟨i', hi', hli⟩ := hl.generations i hi
    exact ⟨hw, i', hi', hli.epoch.trans hie, hli.loop.trans hil⟩

/-- A frame that does not close the connection is followed by the wait for the next one. -/
lemma turned_loopFrame (hf : f.WellFormed may) {k : Generation} (hk : k ∈ f.generations)
    {frame : Inbound} (hframe : ∀ info, frame ≠ .close info) (socket : Nat) :
    ∃ interval due, Turned k [] (.reading socket interval due) f
      (f.loopFrame respond k.epoch socket frame) := by
  have hsame : ∃ i ∈ f.generations, i.epoch = k.epoch ∧ i.loop = k.loop := ⟨k, hk, rfl, rfl⟩
  cases frame with
  | close info => exact absurd rfl (hframe info)
  | text raw =>
    obtain ⟨hw, hkeeps⟩ := dispatch_keeps hr hf k.epoch raw hk
    have hcalm := calm_dispatch hr hf k.epoch raw
    exact ⟨_, _, .setLoop hcalm.traffic hcalm.readers hw.sorted hkeeps _⟩
  | binary bytes =>
    have hlog := calm_of_engine (engine_log f .warn "Ignoring unexpected binary frame"
      [epochField k.epoch, ("len", toString bytes.length)])
    exact ⟨_, _, .setLoop hlog.traffic hlog.readers hf.sorted hsame _⟩
  | ping => exact ⟨_, _, .setLoop rfl (fun _ => rfl) hf.sorted hsame _⟩
  | pong => exact ⟨_, _, .setLoop rfl (fun _ => rfl) hf.sorted hsame _⟩

/-- A socket that has been opened is read, or it is closed at once. -/
lemma turned_loopConnected (hf : f.WellFormed may) {k : Generation} (hk : k ∈ f.generations)
    (socket : Nat) :
    (∃ interval due, Turned k [.opened k.epoch socket] (.reading socket interval due) f
        (f.loopConnected respond k.epoch socket)) ∨
      Turned k [.closeBegun socket, .opened k.epoch socket] (.closing socket) f
        (f.loopConnected respond k.epoch socket) := by
  generalize hopen : f.opening k.epoch socket = j
  have hj : j.WellFormed may := hopen ▸ hf.busy (busy_opening k.epoch socket f)
  have htraffic : j.traffic = .opened k.epoch socket :: f.traffic := by
    rw [← hopen]
    rfl
  have hreaders : ∀ s, j.readers s = f.readers s := by
    intro s
    have hsession : Calm (f.note (.opened k.epoch socket)) j := by
      rw [← hopen]
      exact calm_map (fun i => by split <;> rfl) rfl rfl
    exact hsession.readers s
  obtain ⟨i, hi, hie, hil⟩ : ∃ i ∈ j.generations, i.epoch = k.epoch ∧ i.loop = k.loop := by
    rw [← hopen]
    refine ⟨_, List.mem_map_of_mem hk, ?_⟩
    split <;> exact ⟨rfl, rfl⟩
  have hclose : ∀ {h : Feed}, (h.journal, h.generations) = (j.journal, j.generations) →
      Turned k [.closeBegun socket, .opened k.epoch socket] (.closing socket) f
        (h.beginClose k.epoch socket) := by
    intro h hh
    have hcalm : Calm j h := .of_eq hh
    have hgen : h.generations = j.generations := congrArg Prod.snd hh
    refine .setLoop (j := h.note (.closeBegun socket)) ?_
      (fun s => (hcalm.readers s).trans (hreaders s)) (hgen ▸ hj.sorted)
      ⟨i, hgen ▸ hi, hie, hil⟩ _
    exact congrArg (Fact.closeBegun socket :: ·) (hcalm.traffic.trans htraffic)
  rcases loopConnected_opening respond k.epoch socket f with
    ⟨-, he⟩ | ⟨-, -, he⟩ | ⟨-, -, -, h, ht, he⟩
  · rw [he, hopen]
    exact .inr (hclose rfl)
  · rw [he, hopen]
    exact .inr (hclose rfl)
  · rw [hopen] at ht
    have hinst : Calm j (j.install k.epoch) := .of_eq rfl
    have hji : (j.install k.epoch).WellFormed may := hj.install _
    obtain ⟨hw, hl⟩ := ht.upkeep hr.and.1 hji
    have htold := partwise_calm.told hr.and.2 ht hji
    have hcalm := (hinst.trans htold).trans (calm_of_engine (engine_log h .info
      "Event stream connected" [epochField k.epoch, ("url", h.request.url)]))
    obtain ⟨i', hi', hli⟩ := hl.generations i hi
    rw [he]
    exact .inl ⟨_, _, .setLoop (hcalm.traffic.trans htraffic)
      (fun s => (hcalm.readers s).trans (hreaders s)) hw.sorted
      ⟨i', hi', hli.epoch.trans hie, hli.loop.trans hil⟩ _⟩

/-- What the turn of a read loop does to connections. -/
lemma LoopTurn.serves {k : Generation} {wake : Wake} (hs : LoopTurn respond k f wake f')
    (hf : k.loop ≠ .waiting → f.WellFormed may)
    (hsorted : f.generations.Pairwise fun i j => i.epoch < j.epoch) (hk : k ∈ f.generations) :
    ∃ facts phase, k.loop.Serves k.epoch facts phase ∧ Turned k facts phase f f' := by
  have hsame : ∃ i ∈ f.generations, i.epoch = k.epoch ∧ i.loop = k.loop := ⟨k, hk, rfl, rfl⟩
  have hend : Turned k [] .finished f (f.setLoop k.epoch .finished) :=
    .setLoop rfl (fun _ => rfl) hsorted hsame _
  have hnoted : ∀ {fact : Fact} (phase : LoopPhase), fact.isTraffic = true →
      Turned k [fact] phase f ((f.note fact).setLoop k.epoch phase) := by
    intro fact phase hfact
    have htraffic : (f.note fact).traffic = [fact] ++ f.traffic := by
      simp [Feed.traffic, note, hfact]
    exact .setLoop htraffic (fun _ => rfl) hsorted hsame phase
  cases hs with
  | began h =>
    rw [h]
    exact ⟨_, _, .connects _, hnoted _ rfl⟩
  | opened h socket =>
    rw [h]
    rcases turned_loopConnected hr (hf (by simp [h])) hk socket with ⟨interval, due, ht⟩ | ht
    · exact ⟨_, _, .opens socket interval due, ht⟩
    · exact ⟨_, _, .refuses socket, ht⟩
  | @failed _ e h =>
    have hw : k.loop ≠ .waiting := by
      intro hw
      simp [Generation.failure?, hw] at h
    have heng := engine_loopFailed k.epoch e f
    have hfw := (hf hw).loopFailed k.epoch e
    have hfailed := hend.trans (later_of_engine heng) (calm_of_engine heng)
    refine ⟨_, _, .leaves, ?_⟩
    rcases connectionLost_cases respond k.epoch f.retry.attempt (f.loopFailed k.epoch e) with
      ⟨-, he⟩ | ⟨-, -, i, ht, he⟩
    · rwa [he]
    · have htold := partwise_calm.told hr.and.2 ht hfw
      rw [he]
      exact (hfailed.trans (ht.upkeep hr.and.1 hfw).2 htold).scheduleReconnect _ _
  | received h hframe =>
    obtain ⟨interval, due, ht⟩ := turned_loopFrame hr (hf (by simp [h])) hk hframe _
    rw [h]
    exact ⟨_, _, .reads interval due, ht⟩
  | left => exact ⟨_, _, .leaves, hend⟩
  | closing h =>
    rw [h]
    exact ⟨_, _, .shuts, hnoted _ rfl⟩
  | closed h =>
    rw [h]
    exact ⟨_, _, .closes, hnoted _ rfl⟩
  | panicked => exact ⟨_, _, .leaves, hend⟩

/-- A guardian keeps connections calm. -/
lemma WatchRun.calm {e : Nat} (hs : WatchRun respond e f f') (hf : f.WellFormed may) :
    Calm f f' := by
  have hset : ∀ phase, Calm f (f.setWatch e phase) := fun phase =>
    calm_map (fun k => by split <;> rfl) rfl rfl
  cases hs with
  | ended => exact hset _
  | slept => exact hset _
  | reported => exact (hset _).trans (calm_connectionLost hr (hf.setWatch e .finished) _ _)

omit hr in
/-- A call of the refresh hook keeps connections calm. -/
lemma calm_stepRefresh {number : Nat} {wake : Wake} (hs : f.stepRefresh number wake = some f') :
    Calm f f' := by
  unfold stepRefresh at hs
  split at hs
  · split at hs
    · have hcall : Calm f ({ f with refreshes := f.refreshes.set number true }.note
          .refreshBegun) := by
        have hset : Calm f { f with refreshes := f.refreshes.set number true } := .of_eq rfl
        exact hset.trans (calm_note rfl)
      rw [← Option.some.inj hs]
      split
      · exact hcall
      · exact hcall.trans (calm_of_engine (engine_log _ _ _ _))
    · exact absurd hs (by simp)
  · exact absurd hs (by simp)

end Steps

/-- A step is the turn of a read loop, which does to connections what its phase allows, or it keeps
connections calm. -/
theorem serves_of_step? {depth : Nat} {event : Event} (hf : f.WellFormed may)
    (hs : f.step? depth event = some f') :
    (∃ k ∈ f.generations, ∃ wake facts phase, event = .run (.loop k.epoch) wake ∧
        k.loop.Serves k.epoch facts phase ∧ Turned k facts phase f f') ∨
      ((∀ e wake, event ≠ .run (.loop e) wake) ∧ Calm f f') := by
  have hr := (partwise_calm.conducted may).respond depth
  have hanswers := hr.and.2
  have hturn : ∀ current : Option Task, Calm f { f with current } := fun _ => .of_eq rfl
  cases stepped_of_step? hf hs with
  | called call =>
    have hcalm := partwise_calm.doCall hanswers call hf.noTurn
    exact .inr ⟨by simp, (hturn none).trans hcalm⟩
  | @looped _ wake =>
    obtain ⟨k, hk, hke, -, ht⟩ := loopTurn_of_step? hf hs
    rw [← hke] at ht ⊢
    obtain ⟨facts, phase, hserves, hturned⟩ :=
      ht.serves hr (fun hw => hf.setCurrentLoop hk hw) hf.sorted hk
    refine .inl ⟨k, hk, wake, facts, phase, rfl, hserves, ?_⟩
    exact ⟨hturned.traffic, hturned.readers, hturned.loop⟩
  | @watched k _ _ _ _ hrun =>
    have hcalm := hrun.calm hr (hf.turn (.watch k.epoch) (by simp))
    exact .inr ⟨by simp, (hturn _).trans hcalm⟩
  | @reconnectBegan n r =>
    have hcalm := partwise_calm.beginReconnect hanswers n r (hf.turn (.reconnect n) (by simp))
    exact .inr ⟨by simp, (hturn _).trans hcalm⟩
  | @reconnectEnded n r _ epoch =>
    have hcalm := partwise_calm.endReconnect hanswers n epoch r (hf.turn (.reconnect n) (by simp))
    exact .inr ⟨by simp, (hturn _).trans hcalm⟩
  | @disconnectBegan n =>
    have hcalm := partwise_calm.beginDisconnect hanswers hr.and.1 n
      (hf.turn (.disconnect n) (by simp))
    exact .inr ⟨by simp, (hturn _).trans hcalm⟩
  | @disconnectJoined n =>
    have hcalm := partwise_calm.endDisconnect hanswers n (hf.turn (.disconnect n) (by simp))
    exact .inr ⟨by simp, (hturn _).trans hcalm⟩
  | @disconnectAbandoned n d epoch deadline hd hp =>
    have hab := (hf.turn (.disconnect n) (by simp)).abandonLoop hd hp
    have hlost : Calm { f with current := some (.disconnect n) }
        ({ f with current := some (.disconnect n) }.abandonLoop epoch) :=
      calm_map (fun k => by split <;> rfl) rfl rfl
    have hcalm := partwise_calm.endDisconnect hanswers n hab
    exact .inr ⟨by simp, ((hturn _).trans hlost).trans hcalm⟩
  | @refreshed n wake =>
    refine .inr ⟨by simp, ?_⟩
    simp only [step?, runTask] at hs
    split at hs
    · exact (hturn _).trans (calm_stepRefresh hs)
    · exact absurd hs (by simp)
  | ticked => exact .inr ⟨by simp, .of_eq rfl⟩
  | reconnectGivenUp => exact .inr ⟨by simp, .of_eq rfl⟩
  | disconnectGivenUp => exact .inr ⟨by simp, .of_eq rfl⟩

/-! ### Sockets are closed once -/

/-- Sockets are closed, and read from, no more often than they have been opened. -/
def Balanced (f : Feed) : Prop :=
  ∀ socket, f.closes socket + f.readers socket ≤ f.opens socket

/-- Where connections stay calm, sockets stay balanced. -/
lemma Balanced.calm (h : Balanced f) (hc : Calm f g) : Balanced g := by
  intro socket
  have hs := h socket
  unfold closes opens at hs ⊢
  rwa [hc.traffic, hc.readers]

/-- What a read loop opens, closes and reads from in one turn adds up. -/
lemma serves_balanced {epoch : Nat} {before phase : LoopPhase} {facts : List Fact}
    (hs : before.Serves epoch facts phase) (socket : Nat) :
    facts.countP (fun fact => fact = .closeBegun socket) + phase.awaits socket ≤
      facts.countP (fun fact => fact.opened? = some socket) + before.awaits socket := by
  cases hs <;> simp [LoopPhase.awaits, LoopPhase.socket?, Fact.opened?, List.countP_cons]

/-- The turn of a read loop keeps sockets balanced: what it opens it may read from, and what it
closes it reads from no longer. -/
lemma Balanced.turned {k : Generation} {facts : List Fact} {phase : LoopPhase} (h : Balanced f)
    (hs : k.loop.Serves k.epoch facts phase) (ht : Turned k facts phase f g) : Balanced g := by
  intro socket
  have hbefore := h socket
  have hreaders := ht.readers socket
  have hturn := serves_balanced hs socket
  unfold closes opens at hbefore ⊢
  rw [ht.traffic, List.countP_append, List.countP_append]
  omega

/-- In every feed that is reached sockets are balanced. -/
lemma Reachable.balanced {depth : Nat} {allowed : Feed → Event → Prop}
    (hr : Reachable depth allowed f) : f.WellFormed Conduct.free ∧ Balanced f := by
  refine hr.invariant Balanced (fun _ event _ => event.keeps_free) ?_ ?_
  · intro settings refreshable f₀ h₀ socket
    obtain ⟨request, rfl⟩ := eq_of_ofSettings h₀
    exact Nat.le_refl 0
  · intro g event h hg _ hb hs
    rcases serves_of_step? hg hs with ⟨k, -, wake, facts, phase, -, hserves, ht⟩ | ⟨-, hc⟩
    · exact hb.turned hserves ht
    · exact hb.calm hc

/-- The read loop of an epoch is past reading: it closes its socket or is at its end. -/
def PastReading (f : Feed) (e : Nat) : Prop :=
  ∃ k ∈ f.generations, k.epoch = e ∧ 3 ≤ k.loop.rank

/-- A closing is begun in the turn of a read loop, which is past reading from then on. -/
lemma pastReading_of_closes {depth : Nat} {event : Event} (hf : f.WellFormed may)
    (hs : f.step? depth event = some f') {socket : Nat} (hc : f'.closes socket ≠ f.closes socket) :
    ∃ e wake, event = .run (.loop e) wake ∧ f'.PastReading e := by
  rcases serves_of_step? hf hs with ⟨k, -, wake, facts, phase, rfl, hserves, ht⟩ | ⟨-, hcalm⟩
  · obtain ⟨k', hk', hke, hkl⟩ := ht.loop
    refine ⟨k.epoch, wake, rfl, k', hk', hke, ?_⟩
    have hfacts : facts.countP (fun fact => fact = .closeBegun socket) ≠ 0 := by
      intro hnone
      refine hc ?_
      unfold closes
      rw [ht.traffic, List.countP_append, hnone, Nat.zero_add]
    rw [hkl]
    generalize k.loop = before at hserves
    cases hserves with
    | refuses => exact Nat.le_refl 3
    | shuts => exact Nat.le_refl 3
    | _ => exact absurd (by simp) hfacts
  · refine absurd ?_ hc
    unfold closes
    rw [hcalm.traffic]

/-- A read loop that is past reading stays so. -/
lemma PastReading.reaches {depth e : Nat} (h : f.PastReading e) (hf : f.WellFormed Conduct.free)
    (hr : Reaches depth anyEvent f g) : g.PastReading e := by
  obtain ⟨-, honward⟩ := hr.onward hf fun _ event _ => event.keeps_free
  obtain ⟨k, hk, hke, hrank⟩ := h
  obtain ⟨k', hk', haged⟩ := honward.generations k hk
  exact ⟨k', hk', haged.epoch.trans hke, Nat.le_trans hrank haged.loop⟩

/-- A read loop that is past reading takes in no frame. -/
lemma PastReading.step?_frame {e : Nat} (h : f.PastReading e) (hf : f.WellFormed may)
    (depth : Nat) (frame : Inbound) : f.step? depth (.run (.loop e) (.frame frame)) = none := by
  obtain ⟨k, hk, rfl, hrank⟩ := h
  exact step?_frame_eq_none hf hk hrank depth frame

/-- A read loop that is past reading begins no closing. -/
lemma PastReading.closes {depth e : Nat} {wake : Wake} (h : f.PastReading e)
    (hf : f.WellFormed may) (hs : f.step? depth (.run (.loop e) wake) = some f') (socket : Nat) :
    f'.closes socket = f.closes socket := by
  obtain ⟨i, hi, rfl, hrank⟩ := h
  rcases serves_of_step? hf hs with ⟨k, hk, _, facts, phase, hrun, hserves, ht⟩ | ⟨hno, -⟩
  · obtain ⟨hike, -⟩ : i.epoch = k.epoch ∧ wake = _ := by simpa using hrun
    rw [hf.eq_of_epoch_eq hi hk hike] at hrank
    unfold Feed.closes
    rw [ht.traffic, List.countP_append]
    generalize k.loop = before at hserves hrank
    cases hserves with
    | closes => simp
    | leaves => simp
    | _ => exact absurd hrank (by simp [LoopPhase.rank])
  · exact absurd rfl (hno i.epoch wake)

end Feed

end EventFeed
