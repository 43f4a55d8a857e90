import EventFeed.Proofs.Feed.Connected
import EventFeed.Proofs.Feed.Frames

/-!
# No false alarms

Two tasks may report that a session is dead: the read loop when it has waited too long for a frame,
and the guardian when it wakes up and finds the last sign of life too long ago. The guardian sleeps
for the interval of the time at which it fell asleep, and the read loop waits for the interval of
the time of the last frame, while any heartbeat may ask for another one. `Pulse` is what the
heartbeats of a session make known, told from the events alone. As long as they come in time,
`Beating` relates the pulse to the deadline of the read loop: it lies no earlier than the instant at
which the next heartbeat is due, or the generation has been told to end and is out of date.
-/

namespace EventFeed

/-! ### Pulses -/

/-- What the heartbeats of a session make known. -/
structure Pulse where
  now : Duration
  /-- When the last heartbeat came, or else when the session was opened. -/
  beat : Duration
  /-- The interval within which the next heartbeat is due. -/
  interval : Duration
  deriving DecidableEq, Repr

/-- The connection of a generation comes to its end: it fails or ends, the other side closes it, or
the read loop panics. -/
def Event.breaks (e : Nat) : Event → Bool
  | .run (.loop i) (.readFailed _) | .run (.loop i) .ended | .run (.loop i) .panicked
  | .run (.loop i) (.frame (.close _)) => i = e
  | _ => false

namespace Pulse

/-- The pulse of a session that is opened. -/
def opened (now interval : Duration) : Pulse :=
  { now, beat := now, interval }

/-- What a frame makes of a pulse. -/
def hear (p : Pulse) (frame : Inbound) : Pulse :=
  match frame.heartbeat? with
  | some interval => { p with beat := p.now, interval := interval.getD p.interval }
  | none => p

/-- What an event makes of the pulse of the session of an epoch. -/
def next (e : Nat) (p : Pulse) : Event → Pulse
  | .tick now => { p with now }
  | event => (event.frame? e).elim p p.hear

/-- The next heartbeat is not due yet. -/
def InTime (p : Pulse) : Prop :=
  p.now < p.beat + p.interval

instance (p : Pulse) : Decidable p.InTime := by
  unfold InTime
  infer_instance

/-- Throughout a run the next heartbeat of the session of an epoch is not due, and the connection
does not come to an end. -/
def Regular (e : Nat) : Pulse → List Event → Prop
  | p, [] => p.InTime
  | p, event :: rest => p.InTime ∧ event.breaks e = false ∧ (p.next e event).Regular e rest

instance Regular.decidable (e : Nat) :
    ∀ (p : Pulse) (events : List Event), Decidable (p.Regular e events)
  | p, [] => inferInstanceAs (Decidable p.InTime)
  | p, event :: rest =>
    have := Regular.decidable e (p.next e event) rest
    inferInstanceAs
      (Decidable (p.InTime ∧ event.breaks e = false ∧ (p.next e event).Regular e rest))

variable {e : Nat} {p : Pulse}

/-- A pulse that is regular throughout a run has been so up to any earlier moment. -/
lemma Regular.of_prefix {past events : List Event} (h : p.Regular e events)
    (hp : past <+: events) : p.Regular e past := by
  induction past generalizing p events with
  | nil =>
    cases events with
    | nil => exact h
    | cons event rest => exact h.1
  | cons event past ih =>
    obtain ⟨rest, rfl⟩ := hp
    obtain ⟨htime, hbreak, hrest⟩ := h
    exact ⟨htime, hbreak, ih hrest (List.prefix_append past rest)⟩

/-- No time passes with a frame, and no heartbeat comes from the future. -/
lemma hear_past (hp : p.beat ≤ p.now) (frame : Inbound) :
    (p.hear frame).now = p.now ∧ (p.hear frame).beat ≤ p.now := by
  unfold hear
  split
  · exact ⟨rfl, Nat.le_refl _⟩
  · exact ⟨rfl, hp⟩

end Pulse

/-- A session notes of frames what its pulse makes known. -/
lemma Session.vital_hear_of_vital {s : Session} {p : Pulse} (h : s.vital = (p.interval, p.beat))
    (frame : Inbound) :
    (s.hear p.now frame).vital = ((p.hear frame).interval, (p.hear frame).beat) := by
  unfold Pulse.hear
  cases hbeat : frame.heartbeat? with
  | none => rw [Session.vital_hear (by rw [hbeat]; rfl), h]
  | some interval =>
    have hsome : frame.heartbeat?.isSome = true := by
      rw [hbeat]
      rfl
    have hlast := Session.hear_of_isSome hsome p.now s
    have hint : s.interval = p.interval := congrArg Prod.fst h
    unfold Session.vital
    rw [Session.interval_hear, hlast, Inbound.interval?, hbeat, hint]
    rfl

/-! ### Sessions with a pulse -/

/-- The session of a generation has a pulse. Its read loop waits for a frame, and long enough for
the next heartbeat; or another epoch is the current one, and it does not read any more. -/
structure Generation.Pulses (g : Generation) (p : Pulse) (current : Nat) : Prop where
  vital : g.session.map Session.vital = some (p.interval, p.beat)
  loop : (∃ socket deadline, g.loop = .reading socket p.interval deadline ∧
      p.beat + p.interval ≤ deadline) ∨
    3 ≤ g.loop.rank ∧ g.epoch < current

namespace Feed

variable {may : Conduct} {respond : Respond} {depth e : Nat} {p : Pulse} {event : Event}
  {f f' : Feed} {g : Generation}

/-- The session of an epoch has a pulse. -/
structure Beating (e : Nat) (p : Pulse) (f : Feed) : Prop where
  now : p.now = f.now
  past : p.beat ≤ p.now
  generation : ∃ g ∈ f.generations, g.epoch = e ∧ g.Pulses p f.epoch

/-- A read loop that is awake for another reason than that its time is up does not fail. -/
lemma failure?_of_pulses {current : Nat} (h : g.Pulses p current) {wake : Wake}
    (hb : (Event.run (.loop g.epoch) wake).breaks g.epoch = false) (hw : wake ≠ .elapsed)
    (settings : Settings) : g.failure? settings wake = none := by
  unfold Generation.failure?
  rcases h.loop with ⟨socket, deadline, hl, -⟩ | ⟨hl, -⟩
  · rw [hl]
    cases wake with
    | elapsed => exact absurd rfl hw
    | readFailed error => simp [Event.breaks] at hb
    | ended => simp [Event.breaks] at hb
    | frame frame =>
      cases frame with
      | close info => simp [Event.breaks] at hb
      | _ => rfl
    | _ => rfl
  · revert hl
    cases g.loop <;> simp [LoopPhase.rank]

/-! ### Neither task gives an alarm -/

/-- The read loop of a session whose heartbeats come in time does not run out of time. -/
lemma Beating.step?_elapsed (h : Beating e p f) (hf : f.WellFormed may) (ht : p.InTime) :
    f.step? depth (.run (.loop e) .elapsed) = none := by
  obtain ⟨g, hg, rfl, hp⟩ := h.generation
  simp only [step?, runTask]
  split
  case isFalse => rfl
  have hgen := hf.generation?_eq_some_iff.2 ⟨hg, rfl⟩
  show (f.generation? g.epoch).bind _ = none
  rw [hgen, Option.bind_some]
  unfold stepLoop
  rcases hp.loop with ⟨socket, deadline, hl, hd⟩ | ⟨hl, -⟩
  · have hlt : f.now < deadline := h.now ▸ Nat.lt_of_lt_of_le ht hd
    rw [hl]
    exact if_neg (Nat.not_le.2 hlt)
  · revert hl
    cases g.loop <;> simp [LoopPhase.rank]

/-- Its guardian finds it alive. -/
lemma Beating.isStale_eq_false (h : Beating e p f) (hf : f.WellFormed may) (ht : p.InTime)
    (he : f.epoch = e) : f.isStale e = false := by
  obtain ⟨g, hg, rfl, hp⟩ := h.generation
  obtain ⟨socket, deadline, hl, -⟩ :=
    hp.loop.resolve_right fun hno => Nat.ne_of_lt hno.2 he.symm
  have hgen := hf.generation?_eq_some_iff.2 ⟨hg, rfl⟩
  have hslot : f.slot = some g.epoch := he ▸ hf.slot_of_epoch_eq hg he.symm
  have hended : f.loopEnded g.epoch = false := by
    simp [loopEnded, hgen, hl, (hf.held g hg hslot).loop]
  by_contra hstale
  have hquiet : ∃ s, f.session? = some s ∧ s.epoch = g.epoch ∧
      f.heartbeatInterval < s.livenessAge f.now := by
    simpa [isStale, hended, Option.any_eq_true, Option.filter_eq_some_iff, and_assoc] using hstale
  obtain ⟨s, hs, hse, hage⟩ := hquiet
  have hgs : g.session = some s := by
    obtain ⟨i, hi, hof⟩ := Option.bind_eq_some_iff.1 hs
    obtain ⟨k, hk, hks⟩ := Option.bind_eq_some_iff.1 hof
    obtain ⟨hkmem, rfl⟩ := hf.generation?_eq_some_iff.1 hk
    rwa [hf.eq_of_epoch_eq hg hkmem (hse.symm.trans (hf.session k hkmem s hks))]
  have hvital := hp.vital
  rw [hgs] at hvital
  obtain ⟨hint, hbeat⟩ := Prod.mk.inj (Option.some.inj hvital)
  have hage : s.interval < f.now - p.beat := by
    simpa [heartbeatInterval, hs, Session.livenessAge, hbeat] using hage
  rw [hint] at hage
  have ht : f.now < p.beat + p.interval := h.now ▸ ht
  simp only [Duration.lt_iff, Duration.sub_nanos, Duration.add_nanos] at hage ht
  omega

/-- So no turn of its guardian reports a loss. -/
lemma Beating.loss?_watch (h : Beating e p f) (hf : f.WellFormed may) (ht : p.InTime)
    (wake : Wake) : f.loss? (.run (.watch e) wake) = none := by
  have hturn : Beating e p { f with current := some (.watch e) } :=
    ⟨h.now, h.past, h.generation⟩
  cases wake with
  | elapsed =>
    refine if_neg fun hstale => ?_
    have hno := hturn.isStale_eq_false (hf.turn (.watch e) (by simp)) ht hstale.1
    exact absurd (hno.symm.trans hstale.2) (by simp)
  | _ => rfl

/-- No event with which its connection does not come to an end reports its loss. -/
lemma Beating.epoch_ne_of_loss? (h : Beating e p f) (hf : f.WellFormed may) (ht : p.InTime)
    (hb : event.breaks e = false) (hs : f.step? depth event = some f')
    {loss : Loss} (hloss : f.loss? event = some loss) : loss.epoch ≠ e := by
  rintro rfl
  cases event with
  | run task wake =>
    cases task with
    | loop i =>
      obtain ⟨error, hbind, rfl⟩ := Option.map_eq_some_iff.1 hloss
      obtain ⟨g, hgen, hfail⟩ := Option.bind_eq_some_iff.1 hbind
      obtain ⟨k, hk, hke, hp⟩ := h.generation
      obtain ⟨hg, hge⟩ := hf.generation?_eq_some_iff.1 hgen
      obtain rfl := hf.eq_of_epoch_eq hk hg (hke.trans hge.symm)
      have hw : wake ≠ .elapsed := by
        rintro rfl
        rw [h.step?_elapsed hf ht] at hs
        exact absurd hs (by simp)
      rw [failure?_of_pulses hp (by rwa [hge]) hw] at hfail
      exact absurd hfail (by simp)
    | watch i =>
      have hi : loss.epoch = i := by
        cases wake with
        | elapsed =>
          simp only [loss?] at hloss
          split at hloss
          · rw [← Option.some.inj hloss]
          · exact absurd hloss (by simp)
        | _ => exact absurd hloss (by simp [loss?])
      rw [← hi, h.loss?_watch hf ht] at hloss
      exact absurd hloss (by simp)
    | _ => exact absurd hloss (by simp [loss?])
  | _ => exact absurd hloss (by simp [loss?])

/-! ### Steps -/

/-- A session that agrees with a pulse, and a read loop that begins to wait for a frame. -/
lemma Beating.of_reading {s : Session} {socket : Nat} (hnow : p.now = f.now)
    (hpast : p.beat ≤ p.now) (hg : g ∈ f'.generations) (hge : g.epoch = e)
    (hs : g.session = some s) (hvital : s.vital = (p.interval, p.beat))
    (hl : g.loop = .reading socket s.interval (f.after s.interval)) (hsame : f'.now = f.now) :
    Beating e p f' := by
  have hint : s.interval = p.interval := congrArg Prod.fst hvital
  have hbeat : p.beat ≤ f.now := hnow ▸ hpast
  rw [hint] at hl
  exact ⟨hnow.trans hsame.symm, hpast, g, hg, hge, by rw [hs, Option.map_some, hvital],
    .inl ⟨socket, _, hl, Nat.add_le_add_right hbeat _⟩⟩

/-- No time passes in the turn of a task. -/
lemma now_of_run (hf : f.WellFormed may) {task : Task} {wake : Wake}
    (hs : f.step? depth (.run task wake) = some f') : f'.now = f.now := by
  rcases spares_of_step? hf hs with ⟨now, h, -⟩ | hsp
  · exact absurd h (by simp)
  · exact hsp.now

/-- A socket that has been opened, and from which frames are read, leaves a session with a pulse. -/
lemma Beating.of_connected {socket : Nat} (hf : f.WellFormed may)
    (hs : f.step? depth (.run (.loop e) (.connected socket)) = some f') (hg : g ∈ f'.generations)
    (hge : g.epoch = e) (hread : g.loop.isReading = true) :
    Beating e (.opened f.now f.settings.heartbeatInterval) f' := by
  have hnow := now_of_run hf hs
  obtain ⟨hturn, he, rfl⟩ := loopConnected_of_step? hf hs
  obtain ⟨s, hgs, hvital, hl⟩ :=
    session_loopConnected ((partwise_idles.conducted may).respond depth) hturn he hg hge
  rcases hl with hl | ⟨hl, -⟩
  · exact .of_reading (f := f) rfl (Nat.le_refl _) hg hge hgs hvital hl hnow
  · exact absurd hread (by simp [hl, LoopPhase.isReading])

/-- The clock moves on. -/
lemma Beating.tick {now : Duration} (h : Beating e p f) (hle : f.now ≤ now) :
    Beating e { p with now } { f with now, current := none } := by
  obtain ⟨g, hg, hge, hp⟩ := h.generation
  have hle : p.now ≤ now := h.now ▸ hle
  refine ⟨rfl, Nat.le_trans h.past hle, g, hg, hge, hp.vital, ?_⟩
  rcases hp.loop with ⟨socket, deadline, hl, hd⟩ | hl
  · exact .inl ⟨socket, deadline, hl, hd⟩
  · exact .inr hl

/-- Other tasks and callers leave the session alone. -/
lemma Beating.spared (h : Beating e p f) (hf : f.WellFormed may)
    (hs : f.step? depth event = some f') (hsp : Spares (Event.task? event) f f')
    (hne : Event.task? event ≠ some (.loop e)) : Beating e p f' := by
  obtain ⟨g, hg, rfl, hp⟩ := h.generation
  obtain ⟨g', hg', hge, hloop, hsession⟩ := kept_of_step? hf hs hg hne
  refine ⟨h.now.trans hsp.now.symm, h.past, g', hg', hge, hsession ▸ hp.vital, ?_⟩
  rw [hloop, hge]
  exact hp.loop.imp_right fun hpast => ⟨hpast.1, Nat.lt_of_lt_of_le hpast.2 hsp.epoch⟩

/-- Nothing but time and the frames of its read loop makes anything of a pulse. -/
lemma next_eq_self (hne : Event.task? event ≠ some (.loop e)) (hclock : ∀ now, event ≠ .tick now) :
    p.next e event = p := by
  cases event with
  | tick now => exact absurd rfl (hclock now)
  | run task wake =>
    show ((Event.run task wake).frame? e).elim p p.hear = p
    rw [frame?_eq_none hne]
    rfl
  | _ => rfl

/-- Its read loop takes in a frame with which the connection goes on. -/
lemma Beating.received {socket : Nat} {interval deadline : Duration} {frame : Inbound}
    (h : Beating g.epoch p f) (hf : f.WellFormed may) (hg : g ∈ f.generations)
    (hl : g.loop = .reading socket interval deadline) (hframe : ∀ info, frame ≠ .close info)
    (hf' : f' = { f with current := some (.loop g.epoch) }.loopFrame (Feed.respond depth) g.epoch
      socket frame)
    {g' : Generation} (hg' : g' ∈ f'.generations) (hge : g'.epoch = g.epoch)
    (hnow : f'.now = f.now) : Beating g.epoch (p.hear frame) f' := by
  obtain ⟨k, hk, hke, hp⟩ := h.generation
  obtain rfl := hf.eq_of_epoch_eq hk hg hke
  obtain ⟨s, hks, hvital⟩ := Option.map_eq_some_iff.1 hp.vital
  obtain ⟨hgs, hgl, -⟩ := session_loopFrame ((partwise_idles.conducted may).respond depth) hframe
    (hf.setCurrentLoop hk (by simp [hl])) hk rfl hks (hf' ▸ hg') hge
  have hnew : (s.hear f.now frame).vital = ((p.hear frame).interval, (p.hear frame).beat) :=
    h.now ▸ Session.vital_hear_of_vital hvital frame
  obtain ⟨hstill, hpast⟩ := Pulse.hear_past h.past frame
  exact .of_reading (f := f) (hstill.trans h.now) (hstill.symm ▸ hpast) hg' hge hgs hnew hgl hnow

/-- Its read loop reads no longer once the epoch has passed. -/
lemma Beating.gone {phase : LoopPhase} (h : Beating g.epoch p f) (hf : f.WellFormed may)
    (hg : g ∈ f.generations) (hphase : 3 ≤ phase.rank) (hlt : g.epoch < f.epoch)
    (hsame : f'.generations = (f.setLoop g.epoch phase).generations) (hnow : f'.now = f.now)
    (hepoch : f.epoch ≤ f'.epoch) : Beating g.epoch p f' := by
  obtain ⟨k, hk, hke, hp⟩ := h.generation
  obtain rfl := hf.eq_of_epoch_eq hk hg hke
  have hmem : { k with loop := phase } ∈ f'.generations := by
    rw [hsame]
    exact List.mem_map.2 ⟨k, hk, if_pos rfl⟩
  exact ⟨h.now.trans hnow.symm, h.past, _, hmem, rfl, hp.vital,
    .inr ⟨hphase, Nat.lt_of_lt_of_le hlt hepoch⟩⟩

/-- Its read loop has its turn, and the connection does not come to an end. -/
lemma Beating.turn {wake : Wake} (h : Beating e p f) (hf : f.WellFormed may) (ht : p.InTime)
    (hb : (Event.run (.loop e) wake).breaks e = false)
    (hs : f.step? depth (.run (.loop e) wake) = some f') :
    Beating e (p.next e (.run (.loop e) wake)) f' := by
  have honward := (stepped_of_step? hf hs).onward (orderly_respond may depth) hf
  have hnow := now_of_run hf hs
  have hw : wake ≠ .elapsed := by
    rintro rfl
    rw [h.step?_elapsed hf ht] at hs
    exact absurd hs (by simp)
  obtain ⟨g, hg, rfl, hp⟩ := h.generation
  obtain ⟨k, hk, hke, -, hturn⟩ := loopTurn_of_step? hf hs
  obtain rfl := hf.eq_of_epoch_eq hk hg hke
  have hbegun : 2 ≤ k.loop.rank := by
    rcases hp.loop with ⟨socket, deadline, hl, -⟩ | ⟨hl, -⟩
    · rw [hl]
      exact Nat.le_refl _
    · exact Nat.le_of_succ_le hl
  cases hturn with
  | began hl => simp [hl, LoopPhase.rank] at hbegun
  | opened hl => simp [hl, LoopPhase.rank] at hbegun
  | left hl => rcases hl with hl | ⟨deadline, hl⟩ <;> simp [hl, LoopPhase.rank] at hbegun
  | failed hfail =>
    rw [failure?_of_pulses hp hb hw] at hfail
    exact absurd hfail (by simp)
  | @received socket interval deadline hl frame hframe =>
    have hself : p.next k.epoch (.run (.loop k.epoch) (.frame frame)) = p.hear frame := by
      simp [Pulse.next, Event.frame?]
    obtain ⟨g', hg', haged⟩ := honward.generations k hk
    rw [hself]
    exact h.received hf hk hl hframe rfl hg' haged.epoch hnow
  | closing hl hsig =>
    -- Who has been told to end is held no longer.
    have hslot : f.slot ≠ some k.epoch := fun hslot => by
      have hun := hf.held k hk hslot
      exact absurd (hun.signalled.symm.trans hsig) (by simp)
    exact h.gone hf hk (by simp [LoopPhase.rank]) (hf.released k hk hslot).epoch rfl hnow
      honward.epoch
  | closed hl =>
    obtain ⟨-, hlt⟩ := hp.loop.resolve_left (by simp [hl])
    exact h.gone hf hk (by simp [LoopPhase.rank]) hlt rfl hnow honward.epoch
  | panicked => simp [Event.breaks] at hb

/-- While heartbeats come in time and the connection does not come to an end, every step leaves the
session with its pulse. -/
theorem Beating.step (h : Beating e p f) (hf : f.WellFormed may) (ht : p.InTime)
    (hb : event.breaks e = false) (hs : f.step? depth event = some f') :
    Beating e (p.next e event) f' := by
  rcases spares_of_step? hf hs with ⟨now, rfl, hle, rfl⟩ | hsp
  · exact h.tick hle
  by_cases hloop : Event.task? event = some (.loop e)
  · cases event with
    | run task wake =>
      obtain rfl : task = .loop e := Option.some.inj hloop
      exact h.turn hf ht hb hs
    | _ => exact absurd hloop (by simp [Event.task?])
  · cases event with
    | tick now =>
      have hle : f.now ≤ now ∧ { f with now, current := none } = f' := by
        simpa [step?] using hs
      exact hle.2 ▸ h.tick hle.1
    | _ =>
      rw [next_eq_self hloop (by simp)]
      exact h.spared hf hs hsp hloop

/-! ### Runs -/

/-- So does every run, and as long as nobody operates the feed it stays connected. -/
theorem Beating.run {events : List Event} (h : Beating e p f) (hf : f.WellFormed Conduct.free)
    (hlast : p.Regular e events) (hs : f.run? depth events = some f') :
    f'.WellFormed Conduct.free ∧ (∃ p', Beating e p' f' ∧ p'.InTime) ∧
      ∀ (may : Conduct) (operated : Prop), (∀ notice operation, may notice operation → operated) →
        (∀ event ∈ events, event.Keeps may ∧ (event.operates = true → operated) ∧
          ∀ n, Event.task? event ≠ some (.disconnect n)) →
        f.WellFormed may → f.Stays operated e → f'.Stays operated e := by
  induction events generalizing f p with
  | nil =>
    obtain rfl := Option.some.inj hs
    exact ⟨hf, ⟨p, h, hlast⟩, fun _ _ _ _ _ hstay => hstay⟩
  | cons event rest ih =>
    obtain ⟨f₁, h₁, hrest⟩ := Option.bind_eq_some_iff.1 hs
    obtain ⟨ht, hb, hlast⟩ := hlast
    obtain ⟨hf', hend, hstays⟩ :=
      ih (h.step hf ht hb h₁) (wellFormed_step hf event.keeps_free h₁) hlast hrest
    refine ⟨hf', hend, fun may operated hmay hevents hwf hstay => ?_⟩
    obtain ⟨hkeeps, hop, hdis⟩ := hevents event List.mem_cons_self
    exact hstays may operated hmay (fun i hi => hevents i (List.mem_cons_of_mem _ hi))
      (wellFormed_step hwf hkeeps h₁)
      (hstay.step hmay hwf h₁ hop (fun _ hloss => h.epoch_ne_of_loss? hf ht hb h₁ hloss) hdis)

/-- A read loop opens its session and reads. From then on heartbeats come in time, each within the
interval that is in force when the one before it comes. There may be any other frames in between,
but the connection does not come to an end. Then, up to the present, the read loop does not run out
of time, and no turn of the guardian reports a loss or changes how the feed stands. As long as the
epoch lasts and no disconnect goes on, the feed is connected, whatever callers and subscribers do;
and if subscribers operate nothing and callers neither, and no reconnect or disconnect goes on that
has been asked for before, then the epoch lasts. -/
theorem no_false_alarm {f₀ f₁ : Feed} {socket : Nat} {events : List Event}
    (hr : Reachable depth anyEvent f₀)
    (ho : f₀.step? depth (.run (.loop e) (.connected socket)) = some f₁)
    (hread : ∃ g ∈ f₁.generations, g.epoch = e ∧ g.loop.isReading = true)
    (hlast : (Pulse.opened f₀.now f₀.settings.heartbeatInterval).Regular e events) :
    ∀ past f, past <+: events → f₁.run? depth past = some f →
      f.step? depth (.run (.loop e) .elapsed) = none ∧
      (∀ wake f', f.step? depth (.run (.watch e) wake) = some f' →
        f.loss? (.run (.watch e) wake) = none ∧ f'.standing = f.standing) ∧
      ((∀ event ∈ past, ∀ n, Event.task? event ≠ some (.disconnect n)) → f.epoch = e →
        f.status = .connected) ∧
      (f₀.Keeps .silent → (∀ event ∈ past, event.Keeps .silent ∧ event.operates = false) →
        f.epoch = e ∧ f.status = .connected) := by
  intro past f hpast hs
  obtain ⟨g, hg, hge, hread⟩ := hread
  have hf₀ : f₀.WellFormed Conduct.free := hr.wellFormed fun _ event _ => event.keeps_free
  have hf₁ := wellFormed_step hf₀ (Event.keeps_free _) ho
  obtain ⟨hf, ⟨p, hbeat, hin⟩, hstays⟩ :=
    (Beating.of_connected hf₀ ho hg hge hread).run hf₁ (hlast.of_prefix hpast) hs
  -- Whatever subscribers may do, the feed is connected when the session has been opened.
  have hopen : ∀ {may : Conduct} {operated : Prop}, f₀.WellFormed may →
      (∀ notice operation, may notice operation → operated) → f₁.Stays operated e := by
    intro may operated hwf hmay
    obtain ⟨hturn, -, rfl⟩ := loopConnected_of_step? hwf ho
    exact stays_loopConnected ((conducted_passes may).respond depth)
      ((conducted_quiet may).respond depth) hmay hturn hg hge hread
  refine ⟨hbeat.step?_elapsed hf hin, fun wake f' hw =>
    ⟨hbeat.loss?_watch hf hin wake, standing_of_watch hf hw (hbeat.loss?_watch hf hin wake)⟩,
    fun hdis he => ?_, fun hsilent hcalm => ?_⟩
  · have hstay := hstays .free True (fun _ _ _ => trivial)
      (fun event hevent => ⟨event.keeps_free, fun _ => trivial, hdis event hevent⟩) hf₁
      (hopen hf₀ fun _ _ _ => trivial)
    rcases hstay with ⟨-, hc⟩ | ⟨-, hlt⟩
    · exact hc
    · exact absurd he (Nat.ne_of_gt hlt)
  · have hwf := hf₀.of_keeps hsilent
    have hkept : (Event.run (.loop e) (.connected socket)).Keeps .silent := trivial
    have hstay := hstays .silent False (fun _ _ h => h) (fun event hevent => ?_)
      (wellFormed_step hwf hkept ho) (hopen hwf fun _ _ h => h)
    · exact hstay.resolve_right fun h => h.1
    · obtain ⟨hkeeps, hop⟩ := hcalm event hevent
      refine ⟨hkeeps, fun h => absurd (hop.symm.trans h) (by simp), fun n hn => ?_⟩
      cases event with
      | run task wake =>
        obtain rfl : task = .disconnect n := Option.some.inj hn
        exact absurd hop (by simp [Event.operates])
      | _ => exact absurd hn (by simp [Event.task?])

/-- A guardian falls asleep for thirty seconds, and meanwhile heartbeats ask for the next one within
five. When it wakes up, the last one is two seconds old. -/
theorem no_false_alarm_instances :
    ∃ (f₀ f₁ f f' : Feed) (events : List Event), Reachable 0 anyEvent f₀ ∧
      f₀.step? 0 (.run (.loop 1) (.connected 0)) = some f₁ ∧
      (∃ g ∈ f₁.generations, g.epoch = 1 ∧ g.loop.isReading = true) ∧
      (Pulse.opened f₀.now f₀.settings.heartbeatInterval).Regular 1 events ∧
      f₁.run? 0 events = some f ∧ f.now = .ofSeconds 30 ∧
      f.step? 0 (.run (.loop 1) .elapsed) = none ∧
      f.step? 0 (.run (.watch 1) .elapsed) = some f' ∧
      f.loss? (.run (.watch 1) .elapsed) = none ∧ f'.standing = f.standing ∧
      f.epoch = 1 ∧ f.status = .connected := by
  let beat (seconds : Nat) : List Event :=
    [.tick (.ofSeconds seconds),
      .run (.loop 1) (.frame (.text "<Event><control>_0</control><action>5</action></Event>"))]
  let before : List Event :=
    [.call (.start 0), .run (.loop 1) .first, .run (.watch 1) .first]
  let events : List Event :=
    beat 20 ++ [.tick (.ofSeconds 22), .run (.loop 1) (.frame .ping)] ++ beat 24 ++ beat 28 ++
      [.tick (.ofSeconds 30)]
  have hplay : ∃ f₀ ∈ played? 0 before, ∃ f₁ ∈ f₀.step? 0 (.run (.loop 1) (.connected 0)),
      ∃ f ∈ f₁.run? 0 events,
        (decide (∃ g ∈ f₁.generations, g.epoch = 1 ∧ g.loop.isReading = true) &&
          decide ((Pulse.opened f₀.now f₀.settings.heartbeatInterval).Regular 1 events) &&
          decide (f.now = .ofSeconds 30) &&
          (f.step? 0 (.run (.watch 1) .elapsed)).isSome) = true := by decide +kernel
  obtain ⟨f₀, h₀, f₁, h₁, f, hf, hview⟩ := hplay
  simp only [Bool.and_eq_true, decide_eq_true_eq] at hview
  obtain ⟨⟨⟨hread, hlast⟩, hnow⟩, hsome⟩ := hview
  obtain ⟨f', hs⟩ := Option.isSome_iff_exists.1 hsome
  have hr : Reachable 0 anyEvent f₀ := .of_played? h₀ fun _ _ _ => trivial
  have hquiet : f₀.Keeps .silent := keeps_of_played? h₀ (by simp [before, Event.Keeps])
  have hcalm : ∀ event ∈ events, event.Keeps .silent ∧ event.operates = false := by
    simp [events, beat, Event.Keeps, Event.operates]
  obtain ⟨helapsed, hwatch, -, hstays⟩ :=
    no_false_alarm hr h₁ hread hlast events f List.prefix_rfl hf
  obtain ⟨hloss, hstand⟩ := hwatch .elapsed f' hs
  exact ⟨f₀, f₁, f, f', events, hr, h₁, hread, hlast, hf, hnow, helapsed, hs, hloss, hstand,
    hstays hquiet hcalm⟩

/-- A feed has been started again before its disconnect comes to its end. Then it is disconnected
while heartbeats come in time and nobody calls it, and no reconnect goes on. -/
theorem no_false_alarm_overtaken :
    ∃ (f₀ f₁ f : Feed) (events : List Event), Reachable 0 anyEvent f₀ ∧
      f₀.step? 0 (.run (.loop 3) (.connected 0)) = some f₁ ∧
      (∃ g ∈ f₁.generations, g.epoch = 3 ∧ g.loop.isReading = true) ∧
      (Pulse.opened f₀.now f₀.settings.heartbeatInterval).Regular 3 events ∧
      (∀ event ∈ events, ∀ call, event ≠ .call call) ∧
      (∀ event ∈ events, ∀ n, Event.task? event ≠ some (.reconnect n)) ∧
      f₁.run? 0 events = some f ∧ f₁.status = .connected ∧ f.epoch = 3 ∧
      f.status = .disconnected := by
  let events : List Event := [.run (.loop 1) .shutdown, .run (.disconnect 0) .joined]
  have hplay : ∃ f₀ ∈ played? 0
        [.call (.start 0), .run (.loop 1) .first, .call .disconnect, .run (.disconnect 0) .first,
          .call (.start 0), .run (.loop 3) .first],
      ∃ f₁ ∈ f₀.step? 0 (.run (.loop 3) (.connected 0)), ∃ f ∈ f₁.run? 0 events,
        (decide (∃ g ∈ f₁.generations, g.epoch = 3 ∧ g.loop.isReading = true) &&
          decide ((Pulse.opened f₀.now f₀.settings.heartbeatInterval).Regular 3 events) &&
          decide ((f₁.status, f.epoch, f.status) = (.connected, 3, .disconnected))) = true := by
    decide +kernel
  obtain ⟨f₀, h₀, f₁, h₁, f, hf, hview⟩ := hplay
  simp only [Bool.and_eq_true, decide_eq_true_eq, Prod.mk.injEq] at hview
  obtain ⟨⟨hread, hlast⟩, hbefore, hepoch, hafter⟩ := hview
  exact ⟨f₀, f₁, f, events, .of_played? h₀ fun _ _ _ => trivial, h₁, hread, hlast, by simp [events],
    by simp [events, Event.task?], hf, hbefore, hepoch, hafter⟩

end Feed

end EventFeed
