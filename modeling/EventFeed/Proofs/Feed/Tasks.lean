import EventFeed.Proofs.Feed.Upkeep

/-!
# What tasks come to

Most of what a read loop does is its own business: it goes on to a later phase, counts frames and
notes what they say, and nothing that others rely on is touched. `Busy` is that. The rest is told
apart here: a read loop begins to connect, opens a session, fails, publishes an event, or ends; and
a guardian falls asleep, ends, or reports a loss.
-/

namespace EventFeed

/-- How far a read loop has got. -/
def LoopPhase.rank : LoopPhase → Nat
  | .waiting => 0
  | .connecting _ => 1
  | .reading _ _ _ => 2
  | .closing _ => 3
  | .finished => 4

/-- A read loop at the rank of the end has come to its end. -/
lemma LoopPhase.eq_finished {phase : LoopPhase} (h : 4 ≤ phase.rank) : phase = .finished := by
  cases phase <;> simp [rank] at h ⊢

/-- A read loop that has got anywhere has begun. -/
lemma LoopPhase.rank_pos {phase : LoopPhase} : 0 < phase.rank ↔ phase ≠ .waiting := by
  cases phase <;> simp [rank]

/-- Operations set no read loop back. -/
lemma Generation.Later.le_rank {r : Nat} {g g' : Generation} (h : g.Later g')
    (hr : r ≤ g.loop.rank) : r ≤ g'.loop.rank :=
  h.loop ▸ hr

/-- How a generation goes on by the work of its read loop: nobody tells its tasks to end, the loop
does not go back, and a session that it opens is its own and stays. -/
structure Generation.Proceeds (g g' : Generation) : Prop where
  epoch : g'.epoch = g.epoch
  loopAborted : g'.loopAborted = g.loopAborted
  watchAborted : g'.watchAborted = g.watchAborted
  signalled : g'.signalled = g.signalled
  watch : g'.watch = g.watch
  loop : g.loop.rank ≤ g'.loop.rank
  session : (∀ s, g.session = some s → s.epoch = g.epoch) →
    ∀ s, g'.session = some s → s.epoch = g.epoch
  kept : g.session.isSome = true → g'.session.isSome = true

lemma Generation.Proceeds.refl (g : Generation) : g.Proceeds g :=
  ⟨rfl, rfl, rfl, rfl, rfl, Nat.le_refl _, id, id⟩

lemma Generation.Proceeds.trans {g h k : Generation} (hg : g.Proceeds h) (hh : h.Proceeds k) :
    g.Proceeds k where
  epoch := hh.epoch.trans hg.epoch
  loopAborted := hh.loopAborted.trans hg.loopAborted
  watchAborted := hh.watchAborted.trans hg.watchAborted
  signalled := hh.signalled.trans hg.signalled
  watch := hh.watch.trans hg.watch
  loop := Nat.le_trans hg.loop hh.loop
  session h := by
    have hs := hh.session
    rw [hg.epoch] at hs
    exact hs (hg.session h)
  kept := hh.kept ∘ hg.kept

/-- A generation at a later point of a run: its read loop is no further back, and its tasks may have
been told to end. -/
structure Generation.Aged (g g' : Generation) : Prop where
  epoch : g'.epoch = g.epoch
  loop : g.loop.rank ≤ g'.loop.rank
  loopAborted : g.loopAborted = true → g'.loopAborted = true
  signalled : g.signalled = true → g'.signalled = true

lemma Generation.Aged.refl (g : Generation) : g.Aged g :=
  ⟨rfl, Nat.le_refl _, id, id⟩

lemma Generation.Aged.trans {g h k : Generation} (hg : g.Aged h) (hh : h.Aged k) : g.Aged k where
  epoch := hh.epoch.trans hg.epoch
  loop := Nat.le_trans hg.loop hh.loop
  loopAborted := hh.loopAborted ∘ hg.loopAborted
  signalled := hh.signalled ∘ hg.signalled

lemma Generation.Later.aged {g g' : Generation} (h : g.Later g') : g.Aged g' :=
  ⟨h.epoch, h.le_rank (Nat.le_refl _), h.loopAborted, h.signalled⟩

lemma Generation.Proceeds.aged {g g' : Generation} (h : g.Proceeds g') : g.Aged g' :=
  ⟨h.epoch, h.loop, fun ha => h.loopAborted.trans ha, fun hs => h.signalled.trans hs⟩

namespace Feed

variable {may : Conduct} {respond : Respond} {f f' : Feed}

/-! ### A read loop at work -/

/-- The read loops of a feed have been at work, and nothing but their own business has changed. -/
structure Busy (f f' : Feed) : Prop where
  rest : ∃ generations streamId programKey refreshes journal,
    f' = { f with generations, streamId, programKey, refreshes, journal }
  generations : ∃ c : Generation → Generation, f'.generations = f.generations.map c ∧
    (∀ g, (c g).epoch = g.epoch) ∧ ∀ g ∈ f.generations, g.Proceeds (c g)
  changes : f'.changes = f.changes
  published : f'.published = f.published
  connects : f'.connects = f.connects

lemma Busy.refl (f : Feed) : f.Busy f where
  rest := ⟨_, _, _, _, _, rfl⟩
  generations := ⟨id, (List.map_id _).symm, fun _ => rfl, fun g _ => .refl g⟩
  changes := rfl
  published := rfl
  connects := rfl

lemma Busy.trans {f g h : Feed} (hf : f.Busy g) (hg : g.Busy h) : f.Busy h where
  rest := by
    obtain ⟨_, _, _, _, _, rfl⟩ := hf.rest
    obtain ⟨_, _, _, _, _, rfl⟩ := hg.rest
    exact ⟨_, _, _, _, _, rfl⟩
  generations := by
    obtain ⟨c, hc, hce, hcp⟩ := hf.generations
    obtain ⟨c', hc', hce', hcp'⟩ := hg.generations
    refine ⟨c' ∘ c, by rw [hc', hc, List.map_map], fun k => (hce' _).trans (hce k), ?_⟩
    intro k hk
    exact (hcp k hk).trans (hcp' _ (hc ▸ List.mem_map_of_mem hk))
  changes := hg.changes.trans hf.changes
  published := hg.published.trans hf.published
  connects := hg.connects.trans hf.connects

/-- The read loops of a feed, by their epochs. -/
def loops (f : Feed) : List (Nat × LoopPhase) :=
  f.generations.map fun g => (g.epoch, g.loop)

/-- What a read loop keeps of its session has no part in where it is. -/
lemma loops_changeGeneration {e : Nat} {c : Generation → Generation}
    (hc : ∀ g, (c g).epoch = g.epoch ∧ (c g).loop = g.loop) :
    (f.changeGeneration e c).loops = f.loops := by
  unfold loops changeGeneration
  rw [List.map_map]
  refine List.map_congr_left fun g _ => ?_
  dsimp only [Function.comp_apply]
  split
  · rw [(hc g).1, (hc g).2]
  · rfl

/-- A generation that goes on by itself is work of a read loop. -/
lemma busy_changeGeneration {e : Nat} {c : Generation → Generation}
    (hepoch : ∀ g, (c g).epoch = g.epoch)
    (hc : ∀ g ∈ f.generations, g.epoch = e → g.Proceeds (c g)) :
    f.Busy (f.changeGeneration e c) where
  rest := ⟨_, _, _, _, _, rfl⟩
  generations := by
    refine ⟨fun g => if g.epoch = e then c g else g, rfl, fun g => ?_, fun g hg => ?_⟩
    · dsimp only
      split
      · exact hepoch g
      · rfl
    · dsimp only
      split
      · next he => exact hc g hg he
      · exact .refl g
  changes := rfl
  published := rfl
  connects := rfl

/-- A read loop that goes on to a phase no earlier than the one it began with has been at work. -/
lemma Busy.setLoop {e : Nat} {phase : LoopPhase} (hb : f.Busy f')
    (h : ∀ g ∈ f.generations, g.epoch = e → g.loop.rank ≤ phase.rank) :
    f.Busy (f'.setLoop e phase) where
  rest := by
    obtain ⟨_, _, _, _, _, rfl⟩ := hb.rest
    exact ⟨_, _, _, _, _, rfl⟩
  generations := by
    obtain ⟨c, hc, hce, hcp⟩ := hb.generations
    refine ⟨fun g => if (c g).epoch = e then { c g with loop := phase } else c g, ?_, fun g => ?_,
      fun g hg => ?_⟩
    · simp [Feed.setLoop, Feed.changeGeneration, hc]
    · dsimp only
      split <;> exact hce g
    · dsimp only
      split
      · next he => exact { hcp g hg with loop := h g hg ((hce g).symm.trans he) }
      · exact hcp g hg
  changes := hb.changes
  published := hb.published
  connects := hb.connects

/-- A read loop may come to its end at any time. -/
lemma busy_finish (e : Nat) : f.Busy (f.setLoop e .finished) :=
  (Busy.refl f).setLoop fun g _ _ => by cases g.loop <;> simp [LoopPhase.rank]

/-- A session that takes note of a frame is work of its read loop. -/
lemma busy_changeSession {e : Nat} {change : Session → Session}
    (h : ∀ s, (change s).epoch = s.epoch) : f.Busy (f.changeSession e change) := by
  refine busy_changeGeneration (fun _ => rfl) fun g _ _ =>
    ⟨rfl, rfl, rfl, rfl, rfl, Nat.le_refl _, fun hs s hs' => ?_, fun hs => by simpa using hs⟩
  obtain ⟨s₀, hs₀, rfl⟩ := Option.map_eq_some_iff.1 hs'
  rw [h]
  exact hs s₀ hs₀

/-- What is noted, other than about the status or an attempt to connect, is work of a
read loop. -/
lemma busy_note {fact : Fact} (hc : fact.changed? = none) (hp : fact.published? = none)
    (hb : fact ≠ .connectBegun) : f.Busy (f.note fact) where
  rest := ⟨_, _, _, _, _, rfl⟩
  generations := (Busy.refl f).generations
  changes := by simp [Feed.changes, note, hc]
  published := by simp [Feed.published, note, hp]
  connects := by simp [Feed.connects, note, hb]

/-- A line in the log is work of a read loop. -/
lemma busy_log (level : LogLevel) (message : String) (fields : List (String × String))
    (error : Option String := none) : f.Busy (f.log level message fields error) :=
  busy_note rfl rfl (by simp)

/-- What frames say about the stream and its programs is noted by a read loop. -/
lemma busy_stream (streamId programKey : Option String) (refreshes : List Bool) :
    f.Busy { f with streamId, programKey, refreshes } where
  rest := ⟨_, _, _, _, _, rfl⟩
  generations := (Busy.refl f).generations
  changes := rfl
  published := rfl
  connects := rfl

/-- Work of read loops keeps the bookkeeping. -/
lemma WellFormed.busy (h : f.WellFormed may) (hb : f.Busy f') : f'.WellFormed may := by
  obtain ⟨c, hc, hce, hcp⟩ := hb.generations
  obtain ⟨_, _, _, _, _, rfl⟩ := hb.rest
  refine h.mapGenerations hc hce ?_ ?_ (.inr ⟨rfl, rfl⟩) (Nat.le_refl _) ?_ ?_
    (fun n d hd e t hp => (h.joining n d hd e t hp).map (Nat.le_refl _) hc hce)
    rfl rfl rfl rfl
  · intro g hg hw
    by_contra hne
    have := (hcp g hg).loop
    have := LoopPhase.rank_pos.2 hne
    rw [hw] at *
    simp [LoopPhase.rank] at *
    omega
  · exact fun g hg s hs => (hcp g hg).session (h.session g hg) s hs
  · intro g hg hs
    obtain ⟨hl, hw, hsig⟩ := h.held g hg hs
    have hp := hcp g hg
    exact ⟨hp.loopAborted.trans hl, hp.watchAborted.trans hw, hp.signalled.trans hsig⟩
  · intro g hg hs
    obtain ⟨hlt, hw, hsig, hl⟩ := h.released g hg hs
    have hp := hcp g hg
    refine ⟨hp.epoch.symm ▸ hlt, hp.watchAborted.trans hw, hp.signalled.trans hsig, ?_⟩
    rw [hp.loopAborted, hp.epoch]
    rcases hl with hl | hl | hl
    · exact .inl hl
    · have := hp.loop
      rw [hl] at this
      exact .inr (.inl (LoopPhase.eq_finished this))
    · exact .inr (.inr hl)

/-- Work of read loops keeps every generation. -/
lemma Busy.exists_generation (hb : f.Busy f') {g : Generation} (hg : g ∈ f.generations) :
    ∃ g' ∈ f'.generations, g'.epoch = g.epoch := by
  obtain ⟨c, hc, hce, -⟩ := hb.generations
  exact ⟨c g, hc ▸ List.mem_map_of_mem hg, hce g⟩

/-- Work of read loops sets none of them back. -/
lemma Busy.le_rank (hb : f.Busy f') {e r : Nat}
    (h : ∀ g ∈ f.generations, g.epoch = e → r ≤ g.loop.rank) :
    ∀ g ∈ f'.generations, g.epoch = e → r ≤ g.loop.rank := by
  obtain ⟨c, hc, hce, hcp⟩ := hb.generations
  intro g' hg' he
  rw [hc] at hg'
  obtain ⟨g, hg, rfl⟩ := List.mem_map.1 hg'
  exact Nat.le_trans (h g hg ((hce g).symm.trans he)) (hcp g hg).loop

/-! ### Frames -/

/-- Taking over a stream id is work of a read loop. -/
lemma busy_observeStreamId (id : Option String) (f : Feed) : f.Busy (f.observeStreamId id) := by
  unfold observeStreamId
  split
  · exact .refl f
  · exact busy_stream _ _ _
  · split
    · exact .refl f
    · exact (busy_log _ _ _).trans (busy_stream _ _ _)

/-- Taking over a stream id leaves read loops where they are. -/
lemma loops_observeStreamId (id : Option String) (f : Feed) :
    (f.observeStreamId id).loops = f.loops := by
  unfold observeStreamId
  split
  · rfl
  · rfl
  · split <;> rfl

/-- Asking for the programs is work of a read loop. -/
lemma busy_requestRefresh (f : Feed) : f.Busy f.requestRefresh := by
  unfold requestRefresh
  split
  · exact busy_stream _ _ _
  · exact .refl f

/-- A text frame is a matter of its read loop, or else an event is published. -/
lemma dispatch_cases (respond : Respond) (epoch : Nat) (raw : String) (f : Feed) :
    f.Busy (f.dispatch respond epoch raw) ∨
      ∃ g e, f.Busy g ∧ g.loops = f.loops ∧
        f.dispatch respond epoch raw = (publishEvent respond e g).2 := by
  have hframe : f.Busy (f.changeSession epoch Session.recordFrame) :=
    busy_changeSession fun _ => rfl
  have hloops : (f.changeSession epoch Session.recordFrame).loops = f.loops :=
    loops_changeGeneration fun _ => ⟨rfl, rfl⟩
  unfold dispatch
  dsimp only
  split
  · exact .inl (hframe.trans (busy_log _ _ _))
  · next envelope _ =>
    have hid := hframe.trans (busy_observeStreamId envelope.streamId _)
    have hgl := (loops_observeStreamId envelope.streamId _).trans hloops
    generalize (f.changeSession epoch Session.recordFrame).observeStreamId envelope.streamId = g
      at hid hgl
    cases Route.ofEnvelope envelope with
    | heartbeat interval => exact .inl (hid.trans (busy_changeSession fun _ => rfl))
    | publish topic => exact .inr ⟨g, _, hid, hgl, rfl⟩
    | cacheProgramKey key => exact .inl (hid.trans (busy_stream _ _ _))
    | refreshPrograms key? =>
      cases key? with
      | none => exact .inl (hid.trans (busy_requestRefresh g))
      | some key => exact .inl ((hid.trans (busy_stream _ _ _)).trans (busy_requestRefresh _))
    | discard _ => exact .inl hid

/-! ### A step of a read loop -/

/-- What a step of the read loop of a generation comes to. -/
inductive LoopRun (respond : Respond) (g : Generation) (f : Feed) : Feed → Prop
  | began (h : g.loop = .waiting) : LoopRun respond g f (f.beginLoop g.epoch)
  | ended (h : g.loop ≠ .finished) : LoopRun respond g f (f.setLoop g.epoch .finished)
  | worked {f' : Feed} (h : g.loop ≠ .waiting) (hf : g.loop ≠ .finished) (hb : f.Busy f') :
      LoopRun respond g f f'
  | opened {deadline : Duration} (h : g.loop = .connecting deadline) (socket : Nat) :
      LoopRun respond g f (f.loopConnected respond g.epoch socket)
  | failed (h : g.loop ≠ .waiting) (hf : g.loop ≠ .finished) (error : TransportError) :
      LoopRun respond g f (f.failLoop respond g.epoch error)
  | published {socket : Nat} {interval deadline : Duration} {k : Feed}
      (h : g.loop = .reading socket interval deadline) (hb : f.Busy k) (hl : k.loops = f.loops)
      (event : RoutedEvent) :
      LoopRun respond g f ((publishEvent respond event k).2.awaitFrame g.epoch socket)

/-- A read loop that has got no further than to read may begin to close its socket. -/
lemma busy_beginClose {e : Nat} (socket : Nat)
    (h : ∀ g ∈ f.generations, g.epoch = e → g.loop.rank ≤ 2) : f.Busy (f.beginClose e socket) :=
  (busy_note rfl rfl (by simp)).setLoop fun g hg he => Nat.le_succ_of_le (h g hg he)

section LoopRun

variable {g : Generation} (huniq : ∀ k ∈ f.generations, k.epoch = g.epoch → k = g)

include huniq

/-- A read loop that waits for the next frame or closes its socket is no further than it was
when it read. -/
lemma rank_le_of_reading {socket : Nat} {interval deadline : Duration}
    (h : g.loop = .reading socket interval deadline) :
    ∀ k ∈ f.generations, k.epoch = g.epoch → k.loop.rank ≤ 2 := by
  intro k hk hke
  rw [huniq k hk hke, h]
  exact Nat.le_refl _

/-- A frame is a matter of its read loop, unless an event is published or the connection
was closed. -/
lemma loopRun_loopFrame {socket : Nat} {interval deadline : Duration}
    (h : g.loop = .reading socket interval deadline) (frame : Inbound) :
    LoopRun respond g f (f.loopFrame respond g.epoch socket frame) := by
  have hw : g.loop ≠ .waiting := by simp [h]
  have hfin : g.loop ≠ .finished := by simp [h]
  have hrank := rank_le_of_reading huniq h
  unfold loopFrame
  split
  · next content =>
    rcases dispatch_cases respond g.epoch content f with hb | ⟨k, e, hb, hl, he⟩
    · exact .worked hw hfin (hb.setLoop hrank)
    · rw [he]
      exact .published h hb hl e
  · exact .failed hw hfin _
  · exact .failed hw hfin _
  · exact .worked hw hfin ((busy_log _ _ _).setLoop hrank)
  · exact .worked hw hfin ((Busy.refl f).setLoop hrank)
  · exact .worked hw hfin ((Busy.refl f).setLoop hrank)

/-- What a step of a read loop comes to. -/
lemma loopRun_of_stepLoop {wake : Wake} (hs : f.stepLoop respond g wake = some f') :
    LoopRun respond g f f' := by
  unfold stepLoop at hs
  cases wake with
  | first =>
    dsimp only at hs
    split at hs
    · next h => exact Option.some.inj hs ▸ .began h
    · exact absurd hs (by simp)
  | connected socket =>
    dsimp only at hs
    split at hs
    · next h => exact Option.some.inj hs ▸ .opened h socket
    · exact absurd hs (by simp)
  | connectFailed error =>
    dsimp only at hs
    split at hs
    · next h => exact Option.some.inj hs ▸ .failed (by simp [h]) (by simp [h]) error
    · exact absurd hs (by simp)
  | elapsed =>
    dsimp only at hs
    split at hs
    · next h =>
      split at hs
      · exact Option.some.inj hs ▸ .failed (by simp [h]) (by simp [h]) _
      · exact absurd hs (by simp)
    · next h =>
      split at hs
      · exact Option.some.inj hs ▸ .failed (by simp [h]) (by simp [h]) _
      · exact absurd hs (by simp)
    · exact absurd hs (by simp)
  | shutdown =>
    dsimp only at hs
    split at hs
    · split at hs
      · next h => exact Option.some.inj hs ▸ .ended (by simp [h])
      · next h => exact Option.some.inj hs ▸ .ended (by simp [h])
      · next h =>
        refine Option.some.inj hs ▸ .worked (by simp [h]) (by simp [h]) ?_
        exact busy_beginClose _ (rank_le_of_reading huniq h)
      · exact absurd hs (by simp)
    · exact absurd hs (by simp)
  | frame frame =>
    dsimp only at hs
    split at hs
    · next h => exact Option.some.inj hs ▸ loopRun_loopFrame huniq h frame
    · exact absurd hs (by simp)
  | readFailed error =>
    dsimp only at hs
    split at hs
    · next h => exact Option.some.inj hs ▸ .failed (by simp [h]) (by simp [h]) error
    · exact absurd hs (by simp)
  | ended =>
    dsimp only at hs
    split at hs
    · next h => exact Option.some.inj hs ▸ .failed (by simp [h]) (by simp [h]) _
    · exact absurd hs (by simp)
  | closed =>
    dsimp only at hs
    split at hs
    · next h =>
      refine Option.some.inj hs ▸ .worked (by simp [h]) (by simp [h]) ?_
      exact (busy_note rfl rfl (by simp)).trans (busy_finish _)
    · exact absurd hs (by simp)
  | panicked =>
    dsimp only at hs
    split at hs
    · exact absurd hs (by simp)
    · exact absurd hs (by simp)
    · next hfin => exact Option.some.inj hs ▸ .ended hfin
  | joined => exact absurd hs (by simp)
  | refreshed error => exact absurd hs (by simp)

end LoopRun

/-- A read loop that has come to its end takes no further step. -/
lemma LoopRun.ne_finished {g : Generation} (hs : LoopRun respond g f f') :
    g.loop ≠ .finished := by
  cases hs with
  | began h => simp [h]
  | ended h => exact h
  | worked _ h => exact h
  | opened h => simp [h]
  | failed _ h => exact h
  | published h => simp [h]

/-- A socket has been opened, and the generation of the epoch has a session for it. -/
def opening (epoch socket : Nat) (f : Feed) : Feed :=
  (f.note (.opened epoch socket)).changeGeneration epoch fun g =>
    { g with
      session := some { epoch, openedAt := f.now, interval := f.settings.heartbeatInterval } }

/-- Opening a session is the read loop's own business. -/
lemma busy_opening (epoch socket : Nat) (f : Feed) : f.Busy (f.opening epoch socket) := by
  refine (busy_note rfl rfl (by simp)).trans
    (busy_changeGeneration (fun _ => rfl) fun g _ he => ?_)
  refine ⟨rfl, rfl, rfl, rfl, rfl, Nat.le_refl _, fun _ s hs => ?_, fun _ => rfl⟩
  rw [← Option.some.inj hs]
  exact he.symm

/-- The read loop goes on by what has become of its session. -/
lemma loopConnected_eq (respond : Respond) (epoch socket : Nat) (f : Feed) :
    f.loopConnected respond epoch socket =
      let opened := sessionOpened respond epoch (f.opening epoch socket)
      if opened.1 then
        (opened.2.log .info "Event stream connected"
          [epochField epoch, ("url", opened.2.request.url)]).awaitFrame epoch socket
      else opened.2.beginClose epoch socket := rfl

/-- The session of a socket that has been opened is refused and the socket closed again, or the feed
says that it is connected and the first frame is waited for. -/
lemma loopConnected_opening (respond : Respond) (epoch socket : Nat) (f : Feed) :
    (f.epoch ≠ epoch ∧
        f.loopConnected respond epoch socket = (f.opening epoch socket).beginClose epoch socket) ∨
      (f.epoch = epoch ∧ (f.status = .connected ∨ f.status.isHalted = true) ∧
        f.loopConnected respond epoch socket =
          { (f.opening epoch socket).install epoch with installed := none }.beginClose
            epoch socket) ∨
      (f.epoch = epoch ∧ f.status ≠ .connected ∧ f.status.isHalted = false ∧
        ∃ g, Told respond .connected ((f.opening epoch socket).install epoch) g ∧
          f.loopConnected respond epoch socket =
            (g.log .info "Event stream connected"
              [epochField epoch, ("url", g.request.url)]).awaitFrame epoch socket) := by
  generalize hk : f.opening epoch socket = k
  have hepoch : k.epoch = f.epoch := hk ▸ rfl
  have hstatus : k.status = f.status := hk ▸ rfl
  rw [loopConnected_eq, hk, ← hepoch, ← hstatus]
  rcases sessionOpened_cases respond epoch k with
    ⟨he, ho⟩ | ⟨he, hs, ho⟩ | ⟨he, hs, hh, g, ht, ho⟩
  · exact .inl ⟨he, by rw [ho]; rfl⟩
  · exact .inr (.inl ⟨he, hs, by rw [ho]; rfl⟩)
  · exact .inr (.inr ⟨he, hs, hh, g, ht, by rw [ho]; rfl⟩)

/-- A socket that has been opened has a session. The session is refused and the socket closed again,
or the feed says that it is connected and the first frame is waited for. -/
lemma loopConnected_cases (respond : Respond) (epoch socket : Nat) (f : Feed) :
    ∃ k, f.Busy k ∧ (k.loops = f.loops ∧
        ∀ g ∈ k.generations, g.epoch = epoch → g.session.isSome = true) ∧
      ((k.epoch ≠ epoch ∧ f.loopConnected respond epoch socket = k.beginClose epoch socket) ∨
        (k.epoch = epoch ∧ (k.status = .connected ∨ k.status.isHalted = true) ∧
          f.loopConnected respond epoch socket =
            { k.install epoch with installed := none }.beginClose epoch socket) ∨
        (k.epoch = epoch ∧ k.status ≠ .connected ∧ k.status.isHalted = false ∧
          ∃ g, Told respond .connected (k.install epoch) g ∧
            f.loopConnected respond epoch socket =
              (g.log .info "Event stream connected"
                [epochField epoch, ("url", g.request.url)]).awaitFrame epoch socket)) := by
  have hsession : ∀ g ∈ (f.opening epoch socket).generations, g.epoch = epoch →
      g.session.isSome = true := by
    intro g hg he
    obtain ⟨g₀, -, rfl⟩ := List.mem_map.1 hg
    split
    · rfl
    · next hne => exact absurd he (by rwa [if_neg hne])
  exact ⟨f.opening epoch socket, busy_opening epoch socket f,
    ⟨loops_changeGeneration fun _ => ⟨rfl, rfl⟩, hsession⟩,
    loopConnected_opening respond epoch socket f⟩

/-- A read loop that fails comes to its end and reports the loss. -/
lemma failLoop_eq (respond : Respond) (epoch : Nat) (error : TransportError) (f : Feed) :
    ∃ k, f.Busy k ∧ (f.setLoop epoch .finished).Busy k ∧
      f.failLoop respond epoch error = k.connectionLost respond epoch f.retry.attempt := by
  have hl : ∃ k, (f.setLoop epoch .finished).Busy k ∧
      f.failLoop respond epoch error = k.connectionLost respond epoch k.retry.attempt := by
    unfold failLoop
    dsimp only
    split
    · exact ⟨_, .refl _, rfl⟩
    · exact ⟨_, busy_log _ _ _, rfl⟩
    · exact ⟨_, busy_log _ _ _ _, rfl⟩
  obtain ⟨k, hk, he⟩ := hl
  refine ⟨k, (busy_finish epoch).trans hk, hk, ?_⟩
  obtain ⟨_, _, _, _, _, rfl⟩ := hk.rest
  exact he

/-! ### A step of a guardian -/

/-- What a step of the guardian of a generation comes to. -/
inductive WatchRun (respond : Respond) (epoch : Nat) (f : Feed) : Feed → Prop
  | ended (h : f.status = .stopUpdates ∨ f.epoch ≠ epoch) :
      WatchRun respond epoch f (f.setWatch epoch .finished)
  | slept (h : f.status ≠ .stopUpdates) (deadline : Duration) :
      WatchRun respond epoch f (f.setWatch epoch (.asleep deadline))
  | reported (h : f.epoch = epoch) (hs : f.isStale epoch = true) :
      WatchRun respond epoch f ((f.setWatch epoch .finished).connectionLost respond epoch 0)

/-- A guardian falls asleep, unless the feed has been stopped. -/
lemma watchRun_watchAgain (respond : Respond) (epoch : Nat) (f : Feed) :
    WatchRun respond epoch f (f.watchAgain epoch) := by
  unfold watchAgain
  by_cases h : f.status = .stopUpdates
  · rw [if_pos h]
    exact .ended (.inl h)
  · rw [if_neg h]
    exact .slept h _

/-- What a step of a guardian comes to. -/
lemma watchRun_of_stepWatch {g : Generation} {wake : Wake}
    (hs : f.stepWatch respond g wake = some f') : WatchRun respond g.epoch f f' := by
  unfold stepWatch at hs
  split at hs
  · split at hs
    · exact Option.some.inj hs ▸ watchRun_watchAgain respond g.epoch f
    · exact absurd hs (by simp)
  · split at hs
    · split at hs
      · rw [← Option.some.inj hs]
        unfold watchWoke
        split
        · next h => exact .ended (.inr h)
        · next h =>
          split
          · next hst => exact .reported (by simpa using h) hst
          · exact watchRun_watchAgain respond g.epoch f
      · exact absurd hs (by simp)
    · exact absurd hs (by simp)
  · exact absurd hs (by simp)

/-! ### A call of the refresh hook -/

/-- A call of the refresh hook is of no more account than the work of a read loop. -/
lemma busy_stepRefresh {number : Nat} {wake : Wake} (hs : f.stepRefresh number wake = some f') :
    f.Busy f' := by
  unfold stepRefresh at hs
  split at hs
  · split at hs
    · have hb : f.Busy ({ f with refreshes := f.refreshes.set number true }.note .refreshBegun) :=
        (busy_stream _ _ _).trans (busy_note rfl rfl (by simp))
      rw [← Option.some.inj hs]
      split
      · exact hb
      · exact hb.trans (busy_log _ _ _)
    · exact absurd hs (by simp)
  · exact absurd hs (by simp)

end Feed

end EventFeed
