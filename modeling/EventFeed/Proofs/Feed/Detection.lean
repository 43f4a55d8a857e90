import EventFeed.Proofs.Feed.Sessions
import EventFeed.Proofs.Feed.Within

/-!
# How soon a dead connection is noticed

Two tasks look after a connection. The read loop waits for each frame for as long as the interval of
the session allows, so it notices when nothing arrives any more. The guardian sleeps for the same
interval and then looks at the last heartbeat, so it notices when frames arrive but heartbeats do
not. It falls asleep before it is known which interval the next heartbeat asks for, though, and what
it compares then is the interval of that time: a guardian that has found the last heartbeat in time
sleeps once more before it looks again.

`Marks` is what an observer writes down about the generation of an epoch: its last frame, its last
heartbeat, and for how long the guardian has fallen asleep. `Timed` is a run with such an observer
in which time does not pass deadlines. While a generation is held, `Heeds` relates the deadline of
its read loop to the marks, and `Guards` the one of its guardian.
-/

namespace EventFeed

namespace Duration

/-- The instant at which the clock shows that a deadline has come: it counts whole milliseconds. -/
def roundUp (d : Duration) : Duration :=
  .ofMillis d.millisUp

/-- The clock shows no deadline too early. -/
lemma le_roundUp (d : Duration) : d ≤ d.roundUp := by
  simp only [roundUp, ofMillis, millisUp, nanosPerMilli, le_iff]
  omega

lemma le_trans {a b c : Duration} (hab : a ≤ b) (hbc : b ≤ c) : a ≤ c :=
  Nat.le_trans hab hbc

end Duration

/-! ### Marks -/

/-- What is written down about the generation of an epoch. -/
structure Marks where
  /-- When the last frame arrived, or else when the session was opened. -/
  frame : Duration := .zero
  /-- When the last heartbeat arrived, or else when the session was opened. -/
  beat : Duration := .zero
  /-- For how long the guardian fell asleep last. -/
  sleep : Duration := .zero
  /-- For how long the guardian was asleep at the last heartbeat, or fell asleep first after it. -/
  atBeat : Duration := .zero

/-- What is written down when the read loop of the generation wakes up. -/
def Marks.looped (m : Marks) (now : Duration) : Wake → Marks
  | .connected _ => { m with frame := now, beat := now, atBeat := m.sleep }
  | .frame frame =>
    if frame.heartbeat?.isSome then { m with frame := now, beat := now, atBeat := m.sleep }
    else { m with frame := now }
  | _ => m

/-- What is written down when the guardian of the generation wakes up and finds an interval. -/
def Marks.watched (m : Marks) (interval : Duration) : Wake → Marks
  | .first => { m with sleep := interval, atBeat := interval }
  | _ => { m with sleep := interval }

/-- What is written down about the generation of an epoch when an event happens to a feed. -/
def Marks.next (m : Marks) (epoch : Nat) (f : Feed) : Event → Marks
  | .run (.loop e) wake => if e = epoch then m.looped f.now wake else m
  | .run (.watch e) wake => if e = epoch then m.watched f.heartbeatInterval wake else m
  | _ => m

/-! ### Connectors -/

/-- How a read loop wakes up when the call by which it connects returns: a socket or an error. -/
def Wake.ofConnect : Except TransportError Nat → Wake
  | .ok socket => .connected socket
  | .error e => .connectFailed e

/-- How a read loop wakes up when the call by which it reads returns: a frame or an error, or
nothing once the stream has ended. -/
def Wake.ofRead : Option (Except TransportError Inbound) → Wake
  | some (.ok inbound) => .frame inbound
  | some (.error e) => .readFailed e
  | none => .ended

/-- A read loop wakes up of itself: it begins, its time is up, or it is asked to shut down. -/
def Wake.isOwn : Wake → Bool
  | .first | .elapsed | .shutdown => true
  | _ => false

/-- What a read loop may wake up to while it waits for the code by which it connects, reads and
closes. That code is no part of a feed. -/
abbrev Connector := Wake → Prop

/-- The calls of a connector return what they are documented to return. A call that panics instead
ends the read loop that waits for it. -/
def Connector.Returns (connector : Connector) : Prop :=
  ∀ wake, connector wake →
    (∃ result, wake = .ofConnect result) ∨ (∃ result, wake = .ofRead result) ∨ wake = .closed

/-- A connector whose calls return does not panic. -/
lemma Connector.Returns.not_panicked {connector : Connector} (h : connector.Returns) :
    ¬ connector .panicked := by
  intro hp
  rcases h _ hp with ⟨result, he⟩ | ⟨result, he⟩ | he
  · cases result <;> simp [Wake.ofConnect] at he
  · rcases result with _ | _ | _ <;> simp [Wake.ofRead] at he
  · exact absurd he (by simp)

/-- Read loops wake up of themselves or to what a connector offers. -/
def Event.Offered (connector : Connector) : Event → Prop
  | .run (.loop _) wake => wake.isOwn = true ∨ connector wake
  | _ => True

/-! ### What is written down -/

/-- A failure of the read loop is no sign of life. -/
lemma Marks.looped_of_failure? {m : Marks} {g : Generation} {settings : Settings} {wake : Wake}
    {error : TransportError} (h : g.failure? settings wake = some error) (now : Duration) :
    ((m.looped now wake).beat, (m.looped now wake).sleep, (m.looped now wake).atBeat) =
      (m.beat, m.sleep, m.atBeat) := by
  unfold Generation.failure? at h
  split at h
  any_goals rfl
  exact absurd h (by simp)

/-- When the clock shows `now`, the tasks of a generation that have not been aborted are not past
their deadlines, and the guardian has begun. -/
def Generation.Prompt (now : Duration) (g : Generation) : Prop :=
  (g.loopAborted = true ∨
    match g.loop with
    | .reading _ _ deadline => now ≤ deadline.roundUp
    | _ => True) ∧
  (g.watchAborted = true ∨
    match g.watch with
    | .waiting => False
    | .asleep deadline => now ≤ deadline.roundUp
    | .finished => True)

instance (now : Duration) (g : Generation) : Decidable (g.Prompt now) := by
  unfold Generation.Prompt
  cases g.loop <;> cases g.watch <;> infer_instance

namespace Feed

variable {may : Conduct} {connector : Connector} {respond : Respond} {m : Marks} {e : Nat}
  {f f' : Feed}

/-- Other tasks are not written about. -/
lemma next_of_ne {event : Event} (hl : Event.task? event ≠ some (.loop e))
    (hw : Event.task? event ≠ some (.watch e)) :
    m.next e f event = m := by
  unfold Marks.next
  split
  · exact if_neg fun h => hl (by rw [← h]; rfl)
  · exact if_neg fun h => hw (by rw [← h]; rfl)
  · rfl

/-! ### Deadlines -/

/-- A deadline does not lie in the past. -/
lemma le_after (f : Feed) (span : Duration) : f.now ≤ f.after span :=
  Nat.le_add_right _ _

/-- Time does not pass deadlines: when the clock moves on, every task of a generation that is due
has run, and every guardian has begun. -/
def Punctual (f : Feed) : Event → Prop
  | .tick now => ∀ g ∈ f.generations, g.Prompt now
  | _ => True

instance (f : Feed) (event : Event) : Decidable (f.Punctual event) := by
  cases event <;> unfold Punctual <;> infer_instance

/-- A run with a connector in which time does not pass deadlines, with what is written down about
the generation of an epoch. -/
inductive Timed (connector : Connector) (depth epoch : Nat) : Marks → Feed → Prop
  | fresh {settings : Settings} {refreshable : Bool} {f : Feed}
      (h : ofSettings settings refreshable = .ok f) : Timed connector depth epoch {} f
  | step {m : Marks} {f f' : Feed} {event : Event} (h : Timed connector depth epoch m f)
      (ht : f.Punctual event) (ho : event.Offered connector)
      (hs : f.step? depth event = some f') :
      Timed connector depth epoch (m.next epoch f event) f'

lemma Timed.reachable {depth : Nat} (h : Timed connector depth e m f) :
    Reachable depth anyEvent f := by
  induction h with
  | fresh h => exact ⟨_, _, _, h, .refl⟩
  | step _ _ _ hs ih => exact ih.step trivial hs

/-! ### Deadlines of a generation that is held -/

/-- The feed connects, or it is connected. -/
def Afloat (f : Feed) : Prop :=
  f.status = .initializing ∨ f.status = .connected

/-- How the deadline of a read loop has to do with the last frame. Where the calls of the connector
return, the read loop has not come to its end while the feed is connected. -/
structure Heeds (connector : Connector) (m : Marks) (f : Feed) (g : Generation) : Prop where
  reading : ∀ socket interval deadline, g.loop = .reading socket interval deadline →
    deadline ≤ m.frame + interval ∧ f.now ≤ deadline.roundUp ∧
      g.session.map Session.interval = some interval
  going : connector.Returns → f.Afloat → g.loop.rank ≤ 2

/-- How the deadline of a guardian has to do with the last heartbeat. The guardian may have fallen
asleep before it, and then it counts for how long; or after it, and then it has found no more than
an interval gone. -/
structure Guards (m : Marks) (f : Feed) (g : Generation) : Prop where
  beat : ∀ s, g.session = some s → m.beat = s.lastHeartbeat.getD s.openedAt
  waiting : g.watch = .waiting → ∀ s, g.session = some s → m.beat = f.now
  asleep : ∀ deadline, g.watch = .asleep deadline →
    deadline ≤ f.now + m.sleep ∧ f.now ≤ deadline.roundUp
  due : f.installed = some g.epoch → ∀ s deadline, g.session = some s →
    g.watch = .asleep deadline →
    deadline ≤ m.beat + m.atBeat ∨ deadline ≤ m.beat + s.interval + s.interval
  going : f.Afloat → g.watch ≠ .finished

section Deadlines

variable {g g' : Generation} {m' : Marks}

/-- A read loop that does not read has no deadline for a frame. -/
lemma heeds_of_not_reading
    (h : ∀ socket interval deadline, g.loop ≠ .reading socket interval deadline)
    (hg : connector.Returns → f.Afloat → g.loop.rank ≤ 2) : f.Heeds connector m g :=
  ⟨fun socket interval deadline hl => absurd hl (h socket interval deadline), hg⟩

/-- A read loop that begins to wait for a frame does so for the interval of its session. -/
lemma heeds_of_reading {socket : Nat} {s : Session} (hm : m.frame = f.now)
    (hnow : f'.now = f.now) (hs : g.session = some s)
    (hl : g.loop = .reading socket s.interval (f.after s.interval)) :
    f'.Heeds connector m g where
  reading socket' interval deadline hl' := by
    obtain ⟨-, rfl, rfl⟩ := LoopPhase.reading.inj (hl.symm.trans hl')
    rw [hm, hnow, hs]
    exact ⟨Nat.le_refl _, Duration.le_trans (le_after f _) (Duration.le_roundUp _), rfl⟩
  going _ _ := by simp [hl, LoopPhase.rank]

/-- A generation that has taken no step has no deadlines. -/
lemma heeds_of_unborn (h : g.Unborn) : f.Heeds connector m g :=
  heeds_of_not_reading (by simp [h.loop]) fun _ _ => by simp [h.loop, LoopPhase.rank]

/-- A generation that has taken no step has no deadlines. -/
lemma guards_of_unborn (h : g.Unborn) : f.Guards m g where
  beat s hs := absurd (h.session.symm.trans hs) (by simp)
  waiting _ s hs := absurd (h.session.symm.trans hs) (by simp)
  asleep _ hw := absurd (h.watch.symm.trans hw) (by simp)
  due _ _ _ _ hw := absurd (h.watch.symm.trans hw) (by simp)
  going _ := by simp [h.watch]

/-- While no time passes and the read loop does not go on, its deadline stays as it is. -/
lemma Heeds.congr (h : f.Heeds connector m g) (hm : m'.frame = m.frame)
    (hg : (g'.loop, g'.session) = (g.loop, g.session)) (hnow : f'.now = f.now)
    (hgo : f'.Afloat → f.Afloat) : f'.Heeds connector m' g' := by
  obtain ⟨loop, session⟩ := Prod.mk.inj hg
  constructor
  case reading =>
    rw [loop, session, hnow, hm]
    exact h.reading
  case going =>
    rw [loop]
    exact fun hc hgo' => h.going hc (hgo hgo')

/-- While no time passes and there is no heartbeat, the guardian stays as far from its deadline. -/
lemma Guards.congr (h : f.Guards m g)
    (hm : (m'.beat, m'.sleep, m'.atBeat) = (m.beat, m.sleep, m.atBeat))
    (hg : (g'.epoch, g'.watch, g'.session.map Session.vital) =
      (g.epoch, g.watch, g.session.map Session.vital)) (hnow : f'.now = f.now)
    (hi : f'.installed = some g.epoch → f.installed = some g.epoch)
    (hgo : f'.Afloat → f.Afloat) : f'.Guards m' g' := by
  simp only [Prod.mk.injEq] at hm hg
  obtain ⟨beat, sleep, atBeat⟩ := hm
  obtain ⟨epoch, watch, vital⟩ := hg
  have hold : ∀ s', g'.session = some s' → ∃ s, g.session = some s ∧
      s.interval = s'.interval ∧ s.lastHeartbeat.getD s.openedAt =
        s'.lastHeartbeat.getD s'.openedAt := by
    intro s' hs'
    rw [hs'] at vital
    obtain ⟨s, hs, hv⟩ := Option.map_eq_some_iff.1 vital.symm
    obtain ⟨hint, hsign⟩ := Prod.mk.inj hv
    exact ⟨s, hs, hint, hsign⟩
  constructor
  case beat =>
    intro s' hs'
    obtain ⟨s, hs, -, hsign⟩ := hold s' hs'
    rw [beat, h.beat s hs, hsign]
  case waiting =>
    intro hw s' hs'
    obtain ⟨s, hs, -⟩ := hold s' hs'
    rw [beat, hnow]
    exact h.waiting (watch ▸ hw) s hs
  case asleep =>
    rw [watch, hnow, sleep]
    exact h.asleep
  case due =>
    intro hin s' deadline hs' hw
    obtain ⟨s, hs, hint, -⟩ := hold s' hs'
    rw [beat, atBeat, ← hint]
    exact h.due (hi (epoch ▸ hin)) s deadline hs (watch ▸ hw)
  case going =>
    rw [watch]
    exact fun hgo' => h.going (hgo hgo')

/-- A heartbeat finds the guardian asleep for as long as it fell asleep for. -/
lemma Guards.revive (h : f.Guards m g) {s : Session}
    (hm : (m'.beat, m'.sleep, m'.atBeat) = (f.now, m.sleep, m.sleep))
    (hg : (g'.epoch, g'.watch, g'.session) = (g.epoch, g.watch, some s))
    (hs : s.lastHeartbeat.getD s.openedAt = f.now) (hnow : f'.now = f.now)
    (hgo : f'.Afloat → f.Afloat) : f'.Guards m' g' := by
  simp only [Prod.mk.injEq] at hm hg
  obtain ⟨beat, sleep, atBeat⟩ := hm
  obtain ⟨epoch, watch, session⟩ := hg
  constructor
  case beat =>
    intro s' hs'
    rw [← Option.some.inj (session.symm.trans hs'), beat, hs]
  case waiting => exact fun _ _ _ => beat.trans hnow.symm
  case asleep =>
    rw [watch, hnow, sleep]
    exact h.asleep
  case due =>
    intro _ s' deadline _ hw
    rw [beat, atBeat]
    exact .inl (h.asleep deadline (watch ▸ hw)).1
  case going =>
    rw [watch]
    exact fun hgo' => h.going (hgo hgo')

end Deadlines

/-! ### Turns of a generation that is held -/

/-- A loss that is reported in an epoch that lasts leaves a feed that is not connected. -/
lemma not_afloat_connectionLost (hp : Respects (WellFormed may) (fun _ => Passes) respond)
    (hf : f.WellFormed may) {retries : UInt32} (he : f.epoch = e)
    (hsame : (f.connectionLost respond e retries).epoch = f.epoch) :
    ¬ (f.connectionLost respond e retries).Afloat := by
  rcases connectionLost_cases respond e retries f with ⟨hst, hc⟩ | ⟨-, -, k, ht, hc⟩
  · rw [hc]
    rcases hst with hst | hst
    · simp [Afloat, hst]
    · have hh : f.status.isHalted = true := by simpa [isLive, he] using hst
      rintro (h | h) <;> simp [h, ConnectionState.isHalted] at hh
  · have hsch : (k.scheduleReconnect e retries).epoch = k.epoch ∧
        (k.scheduleReconnect e retries).status = k.status := by
      rcases scheduleReconnect_cases e retries k with ⟨-, hs⟩ | ⟨-, -, hs⟩ <;> rw [hs] <;>
        exact ⟨rfl, rfl⟩
    rw [hc, hsch.1] at hsame
    have heng := (ht.passes hp hf).resolve_left fun hlt => Nat.ne_of_gt hlt hsame
    have hst : k.status = .lostConnection := eq_of_engine heng Feed.status fun _ => rfl
    rw [hc]
    simp [Afloat, hsch.2, hst]

section Turns

variable {g k : Generation} {wake : Wake}

/-- A turn after which the read loop does not wait for a frame, and has not heard a heartbeat,
leaves it to the guardian to go on. -/
lemma watched_of_quiet {m' : Marks} (hguard : f.Guards m g)
    (hk : (k.epoch, k.watch, k.session) = (g.epoch, g.watch, g.session))
    (hm : (m'.beat, m'.sleep, m'.atBeat) = (m.beat, m.sleep, m.atBeat))
    (hread : ∀ socket interval deadline, k.loop ≠ .reading socket interval deadline)
    (hrank : connector.Returns → f'.Afloat → k.loop.rank ≤ 2) (hnow : f'.now = f.now)
    (hi : f'.installed = some g.epoch → f.installed = some g.epoch)
    (hgo : f'.Afloat → f.Afloat) : f'.Heeds connector m' k ∧ f'.Guards m' k := by
  simp only [Prod.mk.injEq] at hk
  obtain ⟨epoch, watch, session⟩ := hk
  exact ⟨heeds_of_not_reading hread hrank,
    hguard.congr hm (by rw [epoch, watch, session]) hnow hi hgo⟩

/-- A turn of the read loop that is held keeps its deadline, and the one of the guardian. -/
lemma LoopTurn.watched
    (hr : Respects (WellFormed may) (fun _ f g => f.Later g ∧ Idles f g) respond)
    (hpass : Respects (WellFormed may) (fun _ => Passes) respond)
    (ht : LoopTurn respond g f wake f') (hf : g.loop ≠ .waiting → f.WellFormed may)
    (hp : f.Placed False) (hg : g ∈ f.generations)
    (huniq : ∀ j ∈ f.generations, j.epoch = g.epoch → j = g) (hsig : g.signalled = false)
    (he : f.epoch = g.epoch) (ho : wake.isOwn = true ∨ connector wake)
    (hheed : f.Heeds connector m g) (hguard : f.Guards m g) (hk : k ∈ f'.generations)
    (hke : k.epoch = g.epoch) (hw : k.watch = g.watch) (hnow : f'.now = f.now)
    (hsame : f'.epoch = f.epoch) (hgo : f'.Afloat → f.Afloat) :
    f'.Heeds connector (m.looped f.now wake) k ∧ f'.Guards (m.looped f.now wake) k := by
  cases ht with
  | began h =>
    obtain ⟨j, hj, hje, rfl⟩ := exists_of_mem_changeGeneration hk hke
    rw [huniq j hj hje]
    exact watched_of_quiet hguard rfl rfl (by simp) (fun _ _ => by simp [LoopPhase.rank]) rfl id hgo
  | opened h socket =>
    have hwf := hf (by simp [h])
    obtain ⟨s, hs, hvital, hl⟩ :=
      session_loopConnected hr hwf (Nat.le_of_eq he.symm) hk hke
    have hsign : s.lastHeartbeat.getD s.openedAt = f.now := congrArg Prod.snd hvital
    refine ⟨?_, hguard.revive rfl (by rw [hke, hw, hs]) hsign hnow hgo⟩
    rcases hl with hl | ⟨hl, hst⟩
    · exact heeds_of_reading rfl hnow hs hl
    · refine heeds_of_not_reading (by simp [hl]) fun _ hgo' => ?_
      rcases hst with hne | hst | hst
      · exact absurd he hne
      · have := hp.past (by rw [hst]; rfl) g hg he.symm
        simp [h, LoopPhase.rank] at this
      · rcases hgo hgo' with h' | h' <;> simp [h', ConnectionState.isHalted] at hst
  | @failed _ error h =>
    have hwait : g.loop ≠ .waiting := by
      intro hwait
      simp [Generation.failure?, hwait] at h
    have hwf := hf hwait
    obtain ⟨hs, hl, hi⟩ := session_failed hr hwf hg rfl hk hke
    have hepoch : (f.loopFailed g.epoch error).epoch = f.epoch :=
      eq_of_engine (engine_loopFailed g.epoch error f) Feed.epoch fun _ => rfl
    have hno := not_afloat_connectionLost hpass (hwf.loopFailed g.epoch error) (hepoch.trans he)
      (hsame.trans hepoch.symm)
    exact watched_of_quiet hguard (by rw [hke, hw, hs]) (Marks.looped_of_failure? h f.now)
      (by simp [hl]) (fun _ hgo' => absurd hgo' hno) hnow hi hgo
  | @received socket interval deadline h frame hframe =>
    have hwf := hf (by simp [h])
    obtain ⟨-, -, hint⟩ := hheed.reading socket interval deadline h
    obtain ⟨s, hs, -⟩ := Option.map_eq_some_iff.1 hint
    obtain ⟨hks, hkl, hi⟩ := session_loopFrame hr hframe hwf hg rfl hs hk hke
    by_cases hbeat : frame.heartbeat?.isSome = true
    · have hlast := Session.hear_of_isSome hbeat f.now s
      have hm : m.looped f.now (.frame frame) =
          { m with frame := f.now, beat := f.now, atBeat := m.sleep } := if_pos hbeat
      rw [hm]
      exact ⟨heeds_of_reading rfl hnow hks hkl,
        hguard.revive rfl (by rw [hke, hw, hks]) (by rw [hlast]; rfl) hnow hgo⟩
    · have hm : m.looped f.now (.frame frame) = { m with frame := f.now } := if_neg hbeat
      have hvital := Session.vital_hear (by simpa using hbeat) f.now s
      rw [hm]
      exact ⟨heeds_of_reading rfl hnow hks hkl,
        hguard.congr rfl (by rw [hke, hw, hks, hs, Option.map_some, Option.map_some, hvital])
          hnow hi hgo⟩
  | left _ hs => exact absurd (hsig.symm.trans hs) (by simp)
  | closing _ hs => exact absurd (hsig.symm.trans hs) (by simp)
  | closed h =>
    obtain ⟨j, hj, hje, rfl⟩ := exists_of_mem_changeGeneration hk hke
    rw [huniq j hj hje]
    have hrank : connector.Returns → f.Afloat → (3 : Nat) ≤ 2 := fun hc hgo' => by
      simpa [h, LoopPhase.rank] using hheed.going hc hgo'
    exact watched_of_quiet hguard rfl rfl (by simp)
      (fun hc hgo' => absurd (hrank hc (hgo hgo')) (by simp)) rfl id hgo
  | panicked =>
    obtain ⟨j, hj, hje, rfl⟩ := exists_of_mem_changeGeneration hk hke
    rw [huniq j hj hje]
    have hpanic : connector .panicked := ho.resolve_left (by simp [Wake.isOwn])
    exact watched_of_quiet hguard rfl rfl (by simp) (fun hc _ => absurd hpanic hc.not_panicked) rfl
      id hgo

/-- A guardian that falls asleep does so for the interval of the feed. -/
lemma guards_watchAgain {m' : Marks} (hguard : f.Guards m g)
    (huniq : ∀ j ∈ f.generations, j.epoch = g.epoch → j = g)
    (hm : (m'.beat, m'.sleep) = (m.beat, f.heartbeatInterval))
    (hdue : f.installed = some g.epoch → ∀ s, g.session = some s →
      f.now + f.heartbeatInterval ≤ m'.beat + m'.atBeat ∨
        f.now + f.heartbeatInterval ≤ m'.beat + s.interval + s.interval)
    (hk : k ∈ (f.watchAgain g.epoch).generations) (hke : k.epoch = g.epoch) :
    (f.watchAgain g.epoch).Guards m' k := by
  obtain ⟨beat, sleep⟩ := Prod.mk.inj hm
  obtain ⟨j, hj, hje, rfl⟩ := exists_of_mem_changeGeneration hk hke
  rw [huniq j hj hje]
  have hlate : f.now ≤ (f.after f.heartbeatInterval).roundUp :=
    Duration.le_trans (le_after f _) (Duration.le_roundUp _)
  have hphase : ∀ deadline, (if f.status = .stopUpdates then WatchPhase.finished
      else .asleep (f.after f.heartbeatInterval)) = .asleep deadline →
      f.after f.heartbeatInterval = deadline := by
    intro deadline hw
    split at hw
    · exact absurd hw (by simp)
    · exact WatchPhase.asleep.inj hw
  constructor
  case beat => exact fun s hs => beat.trans (hguard.beat s hs)
  case waiting =>
    intro hw
    dsimp only at hw
    split at hw <;> exact absurd hw (by simp)
  case asleep =>
    intro deadline hw
    rw [← hphase deadline hw, sleep]
    exact ⟨Nat.le_refl _, hlate⟩
  case due =>
    intro hi s deadline hs hw
    rw [← hphase deadline hw]
    exact hdue hi s hs
  case going =>
    intro hgo
    have hst : f.status ≠ .stopUpdates := fun hst => by
      rcases hgo with h | h <;> exact absurd (h.symm.trans hst) (by simp)
    simp [hst]

/-- A turn of the guardian that is held keeps its deadline. -/
lemma WatchTurn.guards
    (hr : Respects (WellFormed may) (fun _ f g => f.Later g ∧ Idles f g) respond)
    (hpass : Respects (WellFormed may) (fun _ => Passes) respond)
    (ht : WatchTurn respond g f wake f') (hf : f.WellFormed may) (hg : g ∈ f.generations)
    (he : f.epoch = g.epoch) (hguard : f.Guards m g)
    (hk : k ∈ f'.generations) (hke : k.epoch = g.epoch) (hsame : f'.epoch = f.epoch) :
    f'.Guards (m.watched f.heartbeatInterval wake) k := by
  have huniq : ∀ j ∈ f.generations, j.epoch = g.epoch → j = g :=
    fun j hj hje => hf.eq_of_epoch_eq hj hg hje
  cases ht with
  | began h =>
    refine guards_watchAgain hguard huniq rfl (fun _ s hs => .inl ?_) hk hke
    have hbeat := hguard.waiting h s hs
    exact Nat.le_of_eq (congrArg (fun t : Duration => (t + f.heartbeatInterval).nanos) hbeat.symm)
  | ended _ _ hne => exact absurd he hne
  | @reported deadline h hd _ hstale =>
    have hset := hf.setWatch g.epoch .finished
    have hno := not_afloat_connectionLost hpass hset he hsame
    have hsp := spares_connectionLost hr (onTurn_none _) hset g.epoch 0
    obtain ⟨j, hj, hje, hl, hw⟩ := (hsp.generations k hk).resolve_right fun hu =>
      Nat.not_lt.2 (hf.epoch_le hg) (hke ▸ hu.1)
    obtain ⟨i, hi, hie, rfl⟩ := exists_of_mem_changeGeneration hj (hje.trans hke)
    rw [huniq i hi hie] at hl hw
    have hwatch : k.watch = .finished := hw (by simp)
    have hsession : k.session = g.session := (hl (by simp)).2
    exact ⟨fun s hs => hguard.beat s (hsession.symm.trans hs), by simp [hwatch], by simp [hwatch],
      by simp [hwatch], fun hgo => absurd hgo hno⟩
  | slept h hd _ hstale =>
    refine guards_watchAgain hguard huniq rfl (fun hi s hs => .inr ?_) hk hke
    have hsession := (hf.session?_eq hg hi).trans hs
    have hinterval : f.heartbeatInterval = s.interval := by simp [heartbeatInterval, hsession]
    have hage : ¬ f.heartbeatInterval < s.livenessAge f.now := by
      simpa [isStale, hsession, hf.session g hg s hs] using (Bool.or_eq_false_iff.1 hstale).2
    have hbeat := hguard.beat s hs
    rw [hinterval] at hage ⊢
    simp only [Session.livenessAge, ← hbeat, Duration.lt_iff, Duration.sub_nanos] at hage
    show f.now.nanos + s.interval.nanos ≤ m.beat.nanos + s.interval.nanos + s.interval.nanos
    omega

end Turns

/-! ### Steps -/

/-- The generation of the epoch keeps its deadlines while it is held. -/
structure Noted (connector : Connector) (e : Nat) (m : Marks) (f : Feed) : Prop where
  heeds : f.slot = some e → ∀ g ∈ f.generations, g.epoch = e → f.Heeds connector m g
  guards : f.slot = some e → ∀ g ∈ f.generations, g.epoch = e → f.Guards m g

/-- A generation that is held after a step has taken no step yet, or it was held before the step
already, and the feed has not got connected in any other way than by its read loop. -/
lemma exists_held {depth : Nat} {event : Event} (hf : f.WellFormed Conduct.free)
    (hp : f.Placed False) (hs : f.step? depth event = some f')
    (hsp : Spares (Event.task? event) f f') (hslot : f'.slot = some e) {k : Generation}
    (hk : k ∈ f'.generations) (hke : k.epoch = e) :
    k.Unborn ∨ ∃ g ∈ f.generations, g.epoch = e ∧ f.slot = some e ∧ f.epoch = e ∧
      f'.epoch = f.epoch ∧ (f'.Afloat → f.Afloat) ∧
      (Event.task? event ≠ some (.loop e) → k.loop = g.loop ∧ k.session = g.session) ∧
      (Event.task? event ≠ some (.watch e) → k.watch = g.watch) := by
  have hf' : f'.WellFormed Conduct.free := wellFormed_step hf (Event.keeps_free event) hs
  rcases hsp.generations k hk with ⟨g, hg, hge, hl, hw⟩ | ⟨-, hu⟩
  case inr => exact .inl hu
  rw [hke] at hge hl hw
  have hef : e = f'.epoch := (hf'.slot e hslot).1
  have hle : e ≤ f.epoch := hge ▸ hf.epoch_le hg
  have hsame : f'.epoch = f.epoch := Nat.le_antisymm (hef ▸ hle) hsp.epoch
  have hepoch : f.epoch = e := (hef.trans hsame).symm
  obtain ⟨hslot', hst⟩ := (stepped_of_step? hf hs).within ((conducted_passes .free).respond depth)
    hp hf hsame
  refine .inr ⟨g, hg, hge, hslot'.symm.trans hslot, hepoch, hsame, fun hgo => ?_, hl, hw⟩
  rcases hst with hst | ⟨-, -, ⟨-, hinit⟩ | hlost⟩ | ⟨hdis, -⟩
  · unfold Afloat at hgo ⊢
    exact hst ▸ hgo
  · exact .inl hinit
  · rcases hgo with h | h <;> exact absurd (hlost.symm.trans h) (by simp)
  · rcases hgo with h | h <;> exact absurd (hdis.symm.trans h) (by simp)

/-- Time that does not pass deadlines keeps those of a generation that is held. -/
lemma Noted.tick {now : Duration} (h : Noted connector e m f) (hf : f.WellFormed may)
    (hdue : f.Punctual (.tick now)) (hle : f.now ≤ now) :
    Noted connector e m { f with now, current := none } := by
  refine ⟨fun hslot g hg hge => ?_, fun hslot g hg hge => ?_⟩
  · have hheed := h.heeds hslot g hg hge
    have hun := hf.held g hg (hge ▸ hslot)
    refine ⟨fun socket interval deadline hl => ?_, hheed.going⟩
    obtain ⟨hd, -, hint⟩ := hheed.reading socket interval deadline hl
    have hloop := (hdue g hg).1.resolve_left (by simp [hun.loop])
    rw [hl] at hloop
    exact ⟨hd, hloop, hint⟩
  · have hguard := h.guards hslot g hg hge
    have hun := hf.held g hg (hge ▸ hslot)
    have hwatch := (hdue g hg).2.resolve_left (by simp [hun.watch])
    refine ⟨hguard.beat, fun hw => ?_, fun deadline hw => ?_, hguard.due, hguard.going⟩
    · rw [hw] at hwatch
      exact hwatch.elim
    · rw [hw] at hwatch
      exact ⟨Duration.le_trans (hguard.asleep deadline hw).1 (Nat.add_le_add_right hle _), hwatch⟩

/-- Every step keeps the deadlines of a generation that is held. -/
theorem Noted.step {depth : Nat} {event : Event} (h : Noted connector e m f)
    (hf : f.WellFormed Conduct.free) (hp : f.Placed False) (ht : f.Punctual event)
    (ho : event.Offered connector) (hs : f.step? depth event = some f') :
    Noted connector e (m.next e f event) f' := by
  have hr := (partwise_idles.conducted .free).respond depth
  have hpass := ((conducted_passes .free).respond depth).and.2
  rcases spares_of_step? hf hs with ⟨now, rfl, hle, rfl⟩ | hsp
  case inl => exact h.tick hf ht hle
  have hwatched : ∀ k ∈ f'.generations, k.epoch = e → f'.slot = some e →
      f'.Heeds connector (m.next e f event) k ∧ f'.Guards (m.next e f event) k := by
    intro k hk hke hslot
    rcases exists_held hf hp hs hsp hslot hk hke with
      hu | ⟨g, hg, rfl, hslot', hepoch, hsame, hgo, hl, hw⟩
    case inl => exact ⟨heeds_of_unborn hu, guards_of_unborn hu⟩
    have hheed := h.heeds hslot' g hg rfl
    have hguard := h.guards hslot' g hg rfl
    by_cases hloop : Event.task? event = some (.loop g.epoch)
    · -- It is the read loop's turn.
      cases event with
      | run task wake =>
        obtain rfl : task = .loop g.epoch := Option.some.inj hloop
        obtain ⟨i, hi, hie, -, hturn⟩ := loopTurn_of_step? hf hs
        obtain rfl := hf.eq_of_epoch_eq hi hg hie
        have hm : m.next i.epoch f (.run (.loop i.epoch) wake) = m.looped f.now wake := if_pos rfl
        have hplaced : { f with current := some (.loop i.epoch) }.Placed False := hp.congr rfl
        have hnew := hturn.watched hr hpass (fun hw => hf.setCurrentLoop hi hw) hplaced hi
          (fun j hj hje => hf.eq_of_epoch_eq hj hi hje) (hf.held i hi hslot').signalled hepoch
          ho (hheed.congr rfl rfl rfl id) (hguard.congr rfl rfl rfl id id) hk hke
          (hw (by simp [Event.task?])) hsp.now hsame hgo
        rw [hm]
        exact hnew
      | _ => exact absurd hloop (by simp [Event.task?])
    obtain ⟨hkl, hks⟩ := hl hloop
    by_cases hwatch : Event.task? event = some (.watch g.epoch)
    · -- It is the guardian's turn.
      cases event with
      | run task wake =>
        obtain rfl : task = .watch g.epoch := Option.some.inj hwatch
        obtain ⟨i, hi, hie, -, hturn⟩ := watchTurn_of_step? hf hs
        obtain rfl := hf.eq_of_epoch_eq hi hg hie
        have hm : m.next i.epoch f (.run (.watch i.epoch) wake) =
            m.watched f.heartbeatInterval wake := if_pos rfl
        have hnew := hturn.guards hr hpass (hf.turn (.watch i.epoch) (by simp)) hi hepoch
          (hguard.congr rfl rfl rfl id id) hk hke hsame
        rw [hm]
        exact ⟨hheed.congr (by cases wake <;> rfl) (by rw [hkl, hks]) hsp.now hgo, hnew⟩
      | _ => exact absurd hwatch (by simp [Event.task?])
    · rw [next_of_ne hloop hwatch]
      exact ⟨hheed.congr rfl (by rw [hkl, hks]) hsp.now hgo,
        hguard.congr rfl (by rw [hke, hw hwatch, hks]) hsp.now (hsp.installed _ hloop) hgo⟩
  exact ⟨fun hslot k hk hke => (hwatched k hk hke hslot).1,
    fun hslot k hk hke => (hwatched k hk hke hslot).2⟩

/-! ### Runs -/

/-- In every such run the generation of the epoch keeps its deadlines while it is held. -/
lemma Timed.noted {depth : Nat} (h : Timed connector depth e m f) : Noted connector e m f := by
  induction h with
  | fresh h =>
    obtain ⟨request, rfl⟩ := eq_of_ofSettings h
    exact ⟨fun hslot => absurd hslot (by simp), fun hslot => absurd hslot (by simp)⟩
  | step h ht ho hs ih =>
    obtain ⟨hf, hp⟩ := h.reachable.placed False.elim
    exact ih.step hf hp ht ho hs

end Feed

end EventFeed
