import EventFeed.Proofs.Feed.Steps

/-!
# The turns of a generation

A read loop does something else for each thing that it can wake up with, and so does a guardian.
`LoopRun` and `WatchRun` put together what comes to the same; where it matters with what a task woke
up, the turns are told apart here.

A read loop that fails comes to its end and is written about in the log, and then it reports the
loss. `loopFailed` is the feed in between.
-/

namespace EventFeed

/-- The error with which a read loop ends that can wake up this way, if it ends with one. -/
def Generation.failure? (g : Generation) (settings : Settings) (wake : Wake) :
    Option TransportError :=
  match g.loop, wake with
  | .connecting _, .connectFailed e => some e
  | .connecting _, .elapsed => some (.connectTimeout settings.connectTimeout)
  | .reading _ interval _, .elapsed => some (.receiveTimeout interval)
  | .reading _ _ _, .readFailed e => some e
  | .reading _ _ _, .ended => some .unexpectedEof
  | .reading _ _ _, .frame (.close none) => some (.closed none "")
  | .reading _ _ _, .frame (.close (some info)) => some (.closed (some info.code) info.reason)
  | _, _ => none

/-- A frame is a heartbeat; the interval that it asks for, if it does. -/
def Inbound.heartbeat? : Inbound → Option (Option Duration)
  | .text raw =>
    match Envelope.classify raw with
    | .error _ => none
    | .ok envelope =>
      match Route.ofEnvelope envelope with
      | .heartbeat interval => some interval
      | _ => none
  | _ => none

/-- What a session notes of a frame that arrives. -/
def Session.hear (now : Duration) (frame : Inbound) (session : Session) : Session :=
  match frame with
  | .text _ =>
    match frame.heartbeat? with
    | some interval => session.recordFrame.recordHeartbeat now interval
    | none => session.recordFrame
  | _ => session

namespace Feed

variable {may : Conduct} {respond : Respond} {f f' : Feed}

/-! ### Generations that change -/

/-- A generation that changes keeps its place. -/
lemma generation?_changeGeneration {e : Nat} {c : Generation → Generation}
    (hc : ∀ g, (c g).epoch = g.epoch) (i : Nat) (f : Feed) :
    (f.changeGeneration e c).generation? i =
      (f.generation? i).map fun g => if g.epoch = e then c g else g := by
  unfold generation? changeGeneration
  dsimp only
  rw [List.find?_map]
  congr 2
  funext g
  by_cases h : g.epoch = e <;> simp [Function.comp_apply, h, hc]

/-- Where the tasks of a generation are has nothing to do with the session that is installed. -/
lemma session?_changeGeneration {e : Nat} {c : Generation → Generation}
    (hc : ∀ g, (c g).epoch = g.epoch ∧ (c g).session = g.session) (f : Feed) :
    (f.changeGeneration e c).session? = f.session? := by
  have hof : (f.changeGeneration e c).sessionOf? = f.sessionOf? := by
    funext i
    unfold sessionOf?
    rw [generation?_changeGeneration fun g => (hc g).1]
    cases f.generation? i with
    | none => rfl
    | some g => by_cases h : g.epoch = e <;> simp [h, (hc g).2]
  unfold session?
  rw [hof]
  rfl

/-! ### Frames -/

/-- One change of a session after another. -/
lemma changeSession_changeSession (e : Nat) (c c' : Session → Session) (f : Feed) :
    (f.changeSession e c).changeSession e c' = f.changeSession e (c' ∘ c) := by
  unfold changeSession changeGeneration
  simp only [List.map_map]
  congr 1
  refine List.map_congr_left fun g _ => ?_
  by_cases h : g.epoch = e <;> simp [h, Function.comp_def]

/-- Changing nothing about a session. -/
lemma changeSession_id (e : Nat) (f : Feed) : f.changeSession e id = f := by
  unfold changeSession changeGeneration
  simp

/-- Taking over a stream id is no matter of generations. -/
lemma generations_observeStreamId (id : Option String) (f : Feed) :
    (f.observeStreamId id).generations = f.generations ∧ (f.observeStreamId id).now = f.now := by
  unfold observeStreamId
  split
  · exact ⟨rfl, rfl⟩
  · exact ⟨rfl, rfl⟩
  · split <;> exact ⟨rfl, rfl⟩

/-- A text frame is noted by its session, and it may be that an event is published then. -/
lemma dispatch_hears (respond : Respond) (e : Nat) (raw : String) (f : Feed) :
    ∃ k, f.Busy k ∧
      k.generations = (f.changeSession e (Session.hear f.now (.text raw))).generations ∧
      (f.dispatch respond e raw = k ∨
        ∃ event, f.dispatch respond e raw = (publishEvent respond event k).2) := by
  have hframe : f.Busy (f.changeSession e Session.recordFrame) := busy_changeSession fun _ => rfl
  unfold dispatch
  dsimp only
  cases hc : Envelope.classify raw with
  | error error =>
    have hhear : Session.hear f.now (.text raw) = Session.recordFrame := by
      funext s
      simp [Session.hear, Inbound.heartbeat?, hc]
    exact ⟨_, hframe.trans (busy_log _ _ _), by rw [hhear]; rfl, .inl rfl⟩
  | ok envelope =>
    obtain ⟨hgen, hnow⟩ := generations_observeStreamId envelope.streamId
      (f.changeSession e Session.recordFrame)
    have hid := hframe.trans (busy_observeStreamId envelope.streamId _)
    dsimp only
    generalize (f.changeSession e Session.recordFrame).observeStreamId envelope.streamId = g
      at hgen hnow hid
    have hplain : (∀ interval, Route.ofEnvelope envelope ≠ .heartbeat interval) →
        g.generations = (f.changeSession e (Session.hear f.now (.text raw))).generations := by
      intro hno
      have hhear : Session.hear f.now (.text raw) = Session.recordFrame := by
        funext s
        unfold Session.hear Inbound.heartbeat?
        simp only [hc]
      rw [hhear, hgen]
    cases hr : Route.ofEnvelope envelope with
    | heartbeat interval =>
      have hbeat : g.Busy (g.changeSession e fun s => s.recordHeartbeat g.now interval) :=
        busy_changeSession fun _ => rfl
      refine ⟨_, hid.trans hbeat, ?_, .inl rfl⟩
      have hhear : Session.hear f.now (.text raw) =
          (fun s => s.recordHeartbeat f.now interval) ∘ Session.recordFrame := by
        funext s
        simp [Session.hear, Inbound.heartbeat?, hc, hr]
      have hnow' : g.now = f.now := hnow
      rw [hhear, ← changeSession_changeSession, hnow']
      unfold changeSession changeGeneration at hgen ⊢
      rw [hgen]
    | publish topic => exact ⟨g, hid, hplain (by simp [hr]), .inr ⟨_, rfl⟩⟩
    | cacheProgramKey key =>
      have hkey : g.Busy { g with programKey := some key } := busy_stream _ _ _
      exact ⟨_, hid.trans hkey, hplain (by simp [hr]), .inl rfl⟩
    | refreshPrograms key? =>
      have hrefresh : ∀ k : Feed, k.requestRefresh.generations = k.generations := by
        intro k
        unfold requestRefresh
        split <;> rfl
      cases key? with
      | none =>
        refine ⟨_, hid.trans (busy_requestRefresh g), ?_, .inl rfl⟩
        rw [hrefresh]
        exact hplain (by simp [hr])
      | some key =>
        have hkey : g.Busy { g with programKey := some key } := busy_stream _ _ _
        refine ⟨_, (hid.trans hkey).trans (busy_requestRefresh _), ?_, .inl rfl⟩
        rw [hrefresh]
        exact hplain (by simp [hr])
    | discard reason => exact ⟨g, hid, hplain (by simp [hr]), .inl rfl⟩

/-- A frame that does not close the connection is noted by its session, it may be that an event is
published then, and the next frame is waited for. -/
lemma loopFrame_hears (respond : Respond) (e socket : Nat) {frame : Inbound}
    (hframe : ∀ info, frame ≠ .close info) (f : Feed) :
    ∃ k, f.Busy k ∧
      k.generations = (f.changeSession e (Session.hear f.now frame)).generations ∧
      (f.loopFrame respond e socket frame = k.awaitFrame e socket ∨
        ∃ event, f.loopFrame respond e socket frame =
          (publishEvent respond event k).2.awaitFrame e socket) := by
  have hsame : f.generations = (f.changeSession e id).generations := by rw [changeSession_id]
  cases frame with
  | text raw =>
    obtain ⟨k, hb, hgen, he⟩ := dispatch_hears respond e raw f
    refine ⟨k, hb, hgen, ?_⟩
    unfold loopFrame
    dsimp only
    rcases he with he | ⟨event, he⟩
    · exact .inl (by rw [he])
    · exact .inr ⟨event, by rw [he]⟩
  | binary bytes => exact ⟨_, busy_log _ _ _, hsame, .inl rfl⟩
  | ping => exact ⟨f, .refl f, hsame, .inl rfl⟩
  | pong => exact ⟨f, .refl f, hsame, .inl rfl⟩
  | close info => exact absurd rfl (hframe info)

/-! ### Read loops -/

/-- The read loop of an epoch has come to its end with an error, as its severity asks to be
written. -/
def loopFailed (epoch : Nat) (e : TransportError) (f : Feed) : Feed :=
  match e.severity with
  | .debug => f.setLoop epoch .finished
  | .warn =>
    (f.setLoop epoch .finished).log .warn ("Event stream failed: " ++ e.message) [epochField epoch]
  | .error =>
    (f.setLoop epoch .finished).log .error ("Event stream error: " ++ e.message)
      [epochField epoch] (some e.text)

/-- A read loop that fails reports the loss with the number of attempts so far. -/
lemma failLoop_eq_connectionLost (respond : Respond) (epoch : Nat) (e : TransportError)
    (f : Feed) : f.failLoop respond epoch e =
      (f.loopFailed epoch e).connectionLost respond epoch f.retry.attempt := by
  unfold failLoop loopFailed
  cases e.severity <;> rfl

/-- But for the log, the read loop has come to its end. -/
lemma engine_loopFailed (epoch : Nat) (e : TransportError) (f : Feed) :
    (f.loopFailed epoch e).engine = (f.setLoop epoch .finished).engine := by
  unfold loopFailed
  split <;> simp

/-- No subscriber has been brought in. -/
lemma subscribers_loopFailed (epoch : Nat) (e : TransportError) (f : Feed) :
    (f.loopFailed epoch e).subscribers = f.subscribers := by
  unfold loopFailed
  split <;> rfl

/-- A read loop that has failed keeps the bookkeeping. -/
lemma WellFormed.loopFailed (hf : f.WellFormed may) (epoch : Nat) (e : TransportError) :
    (f.loopFailed epoch e).WellFormed may :=
  (hf.busy (busy_finish epoch)).of_engine (engine_loopFailed epoch e f)
    (hf.keeps.congr (subscribers_loopFailed epoch e f))

/-- What the read loop of a generation does when it wakes up. -/
inductive LoopTurn (respond : Respond) (g : Generation) (f : Feed) : Wake → Feed → Prop
  | began (h : g.loop = .waiting) : LoopTurn respond g f .first (f.beginLoop g.epoch)
  | opened {deadline : Duration} (h : g.loop = .connecting deadline) (socket : Nat) :
      LoopTurn respond g f (.connected socket) (f.loopConnected respond g.epoch socket)
  | failed {wake : Wake} {e : TransportError} (h : g.failure? f.settings wake = some e) :
      LoopTurn respond g f wake
        ((f.loopFailed g.epoch e).connectionLost respond g.epoch f.retry.attempt)
  | received {socket : Nat} {interval deadline : Duration}
      (h : g.loop = .reading socket interval deadline) {frame : Inbound}
      (hframe : ∀ info, frame ≠ .close info) :
      LoopTurn respond g f (.frame frame) (f.loopFrame respond g.epoch socket frame)
  | left (h : g.loop = .waiting ∨ ∃ deadline, g.loop = .connecting deadline)
      (hs : g.signalled = true) : LoopTurn respond g f .shutdown (f.setLoop g.epoch .finished)
  | closing {socket : Nat} {interval deadline : Duration}
      (h : g.loop = .reading socket interval deadline) (hs : g.signalled = true) :
      LoopTurn respond g f .shutdown (f.beginClose g.epoch socket)
  | closed {socket : Nat} (h : g.loop = .closing socket) :
      LoopTurn respond g f .closed (f.loopClosed g.epoch socket)
  | panicked (hw : g.loop ≠ .waiting) (h : g.loop ≠ .finished) :
      LoopTurn respond g f .panicked (f.setLoop g.epoch .finished)

/-- A read loop that can wake up has its turn. -/
lemma loopTurn_of_stepLoop {g : Generation} {wake : Wake}
    (hs : f.stepLoop respond g wake = some f') : LoopTurn respond g f wake f' := by
  have failed : ∀ {e : TransportError}, g.failure? f.settings wake = some e →
      some (f.failLoop respond g.epoch e) = some f' → LoopTurn respond g f wake f' := by
    intro e he hs
    rw [failLoop_eq_connectionLost] at hs
    exact Option.some.inj hs ▸ .failed he
  unfold stepLoop at hs
  cases wake with
  | first =>
    dsimp only at hs
    split at hs
    · next h => exact Option.some.inj hs ▸ .began h
    · exact absurd hs (by simp)
  | connected socket =>
    dsimp only at hs
    split at hs
    · next h => exact Option.some.inj hs ▸ .opened h socket
    · exact absurd hs (by simp)
  | connectFailed e =>
    dsimp only at hs
    split at hs
    · next h => exact failed (by simp [Generation.failure?, h]) hs
    · exact absurd hs (by simp)
  | elapsed =>
    dsimp only at hs
    split at hs
    · next h =>
      split at hs
      · exact failed (by simp [Generation.failure?, h]) hs
      · exact absurd hs (by simp)
    · next h =>
      split at hs
      · exact failed (by simp [Generation.failure?, h]) hs
      · exact absurd hs (by simp)
    · exact absurd hs (by simp)
  | shutdown =>
    dsimp only at hs
    split at hs
    · next hsig =>
      split at hs
      · next h => exact Option.some.inj hs ▸ .left (.inl h) hsig
      · next h => exact Option.some.inj hs ▸ .left (.inr ⟨_, h⟩) hsig
      · next h => exact Option.some.inj hs ▸ .closing h hsig
      · exact absurd hs (by simp)
    · exact absurd hs (by simp)
  | frame frame =>
    dsimp only at hs
    split at hs
    · next h =>
      cases frame with
      | close info =>
        cases info with
        | none => exact failed (e := .closed none "") (by simp [Generation.failure?, h]) hs
        | some info =>
          exact failed (e := .closed (some info.code) info.reason)
            (by simp [Generation.failure?, h]) hs
      | _ => exact Option.some.inj hs ▸ .received h (by simp)
    · exact absurd hs (by simp)
  | readFailed e =>
    dsimp only at hs
    split at hs
    · next h => exact failed (by simp [Generation.failure?, h]) hs
    · exact absurd hs (by simp)
  | ended =>
    dsimp only at hs
    split at hs
    · next h => exact failed (by simp [Generation.failure?, h]) hs
    · exact absurd hs (by simp)
  | closed =>
    dsimp only at hs
    split at hs
    · next h => exact Option.some.inj hs ▸ .closed h
    · exact absurd hs (by simp)
  | panicked =>
    dsimp only at hs
    split at hs
    · exact absurd hs (by simp)
    · exact absurd hs (by simp)
    · next hw h => exact Option.some.inj hs ▸ .panicked hw h
  | joined => exact absurd hs (by simp)
  | refreshed e => exact absurd hs (by simp)

/-- A read loop that wakes up with an error fails with it. -/
lemma LoopTurn.eq_of_failure? {g : Generation} {wake : Wake} {e : TransportError}
    (hs : LoopTurn respond g f wake f') (h : g.failure? f.settings wake = some e) :
    f' = (f.loopFailed g.epoch e).connectionLost respond g.epoch f.retry.attempt := by
  cases hs with
  | failed h' => rw [Option.some.inj (h.symm.trans h')]
  | received hl hframe =>
    revert hframe
    unfold Generation.failure? at h
    split at h <;> simp_all
  | left hl =>
    rcases hl with hl | ⟨deadline, hl⟩ <;> simp [Generation.failure?, hl] at h
  | panicked hw hl =>
    cases hl' : g.loop <;> simp [Generation.failure?, hl'] at h
  | began hl => simp [Generation.failure?, hl] at h
  | opened hl => simp [Generation.failure?, hl] at h
  | closing hl => simp [Generation.failure?, hl] at h
  | closed hl => simp [Generation.failure?, hl] at h

/-- A step of a read loop is a turn of the one that its epoch names. -/
lemma loopTurn_of_step? (hf : f.WellFormed may) {depth e : Nat} {wake : Wake}
    (hs : f.step? depth (.run (.loop e) wake) = some f') :
    ∃ g ∈ f.generations, g.epoch = e ∧ f.mayRun (.loop e) = true ∧
      LoopTurn (Feed.respond depth) g { f with current := some (.loop e) } wake f' := by
  simp only [step?, runTask] at hs
  split at hs
  case isFalse => exact absurd hs (by simp)
  case isTrue hm =>
    obtain ⟨g, hg, hs⟩ := Option.bind_eq_some_iff.1 hs
    obtain ⟨hmem, rfl⟩ := hf.generation?_eq_some_iff.1 hg
    exact ⟨g, hmem, rfl, hm, loopTurn_of_stepLoop hs⟩

/-! ### Guardians -/

/-- What the guardian of a generation does when it wakes up. -/
inductive WatchTurn (respond : Respond) (g : Generation) (f : Feed) : Wake → Feed → Prop
  | began (h : g.watch = .waiting) : WatchTurn respond g f .first (f.watchAgain g.epoch)
  | ended {deadline : Duration} (h : g.watch = .asleep deadline) (hd : deadline ≤ f.now)
      (he : f.epoch ≠ g.epoch) : WatchTurn respond g f .elapsed (f.setWatch g.epoch .finished)
  | reported {deadline : Duration} (h : g.watch = .asleep deadline) (hd : deadline ≤ f.now)
      (he : f.epoch = g.epoch) (hs : f.isStale g.epoch = true) :
      WatchTurn respond g f .elapsed
        ((f.setWatch g.epoch .finished).connectionLost respond g.epoch 0)
  | slept {deadline : Duration} (h : g.watch = .asleep deadline) (hd : deadline ≤ f.now)
      (he : f.epoch = g.epoch) (hs : f.isStale g.epoch = false) :
      WatchTurn respond g f .elapsed (f.watchAgain g.epoch)

/-- A guardian that can wake up has its turn. -/
lemma watchTurn_of_stepWatch {g : Generation} {wake : Wake}
    (hs : f.stepWatch respond g wake = some f') : WatchTurn respond g f wake f' := by
  unfold stepWatch at hs
  split at hs
  · split at hs
    · next h => exact Option.some.inj hs ▸ .began h
    · exact absurd hs (by simp)
  · split at hs
    · next h =>
      split at hs
      · next hd =>
        rw [← Option.some.inj hs]
        unfold watchWoke
        split
        · next he => exact .ended h hd he
        · next he =>
          have he : f.epoch = g.epoch := by simpa using he
          split
          · next hst => exact .reported h hd he hst
          · next hst => exact .slept h hd he (by simpa using hst)
      · exact absurd hs (by simp)
    · exact absurd hs (by simp)
  · exact absurd hs (by simp)

/-- A step of a guardian is a turn of the one that its epoch names. -/
lemma watchTurn_of_step? (hf : f.WellFormed may) {depth e : Nat} {wake : Wake}
    (hs : f.step? depth (.run (.watch e) wake) = some f') :
    ∃ g ∈ f.generations, g.epoch = e ∧ f.mayRun (.watch e) = true ∧
      WatchTurn (Feed.respond depth) g { f with current := some (.watch e) } wake f' := by
  simp only [step?, runTask] at hs
  split at hs
  case isFalse => exact absurd hs (by simp)
  case isTrue hm =>
    obtain ⟨g, hg, hs⟩ := Option.bind_eq_some_iff.1 hs
    obtain ⟨hmem, rfl⟩ := hf.generation?_eq_some_iff.1 hg
    exact ⟨g, hmem, rfl, hm, watchTurn_of_stepWatch hs⟩

end Feed

end EventFeed
