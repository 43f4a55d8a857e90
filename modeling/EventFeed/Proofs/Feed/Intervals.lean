import EventFeed.Proofs.Feed.Frames
import EventFeed.Proofs.Text.Numeral

/-!
# Intervals

A heartbeat asks for an interval by a number of whole seconds. It has to be a decimal numeral that
fits into 64 bits, and zero is no interval: such a heartbeat, like one without a number, is a sign
of life and nothing more.

The interval of the settings is not empty either, so no interval ever is. Hence nobody who waits
for one is woken up at once: the read loop waits for the next frame until a later instant, and the
guardian sleeps until a later one. `Paced` is the invariant.
-/

namespace EventFeed

/-! ### The interval of a heartbeat -/

namespace Route

/-- An interval of whole seconds is asked for by a numeral for them. -/
lemma interval?_eq_some_iff {action : String} {n : Nat} :
    interval? action = some (.ofSeconds n) ↔
      Text.Denotes 10 (Text.trimBy Text.isBlank action.toList) n ∧ 1 ≤ n ∧ n ≤ maxSeconds := by
  have hinj : ∀ m, Duration.ofSeconds m = Duration.ofSeconds n ↔ m = n := by
    intro m
    simp only [Duration.ofSeconds, Duration.nanosPerSecond, Duration.mk.injEq]
    omega
  simp only [interval?, Option.map_eq_some_iff, Option.filter_eq_some_iff, decide_eq_true_eq, hinj,
    Text.numeral?_eq_some_iff (show 10 ≤ 16 by decide) (show 0 < 10 by decide)]
  constructor
  · rintro ⟨m, ⟨⟨hden, hle⟩, hpos⟩, rfl⟩
    exact ⟨hden, hpos, hle⟩
  · rintro ⟨hden, hpos, hle⟩
    exact ⟨n, ⟨⟨hden, hle⟩, hpos⟩, rfl⟩

/-- Only intervals of whole seconds are asked for. -/
lemma exists_seconds {action : String} {d : Duration} (h : interval? action = some d) :
    ∃ n, d = .ofSeconds n := by
  obtain ⟨n, -, rfl⟩ := Option.map_eq_some_iff.1 h
  exact ⟨n, rfl⟩

/-- An interval that is asked for is not empty. -/
lemma pos_of_interval? {action : String} {d : Duration} (h : interval? action = some d) :
    .zero < d := by
  obtain ⟨n, rfl⟩ := exists_seconds h
  exact Nat.mul_pos (interval?_eq_some_iff.1 h).2.1 (by decide)

/-- Triggers are no heartbeats. -/
lemma ofTrigger_ne_heartbeat (envelope : Envelope) (interval : Option Duration) :
    ofTrigger envelope ≠ .heartbeat interval := by
  unfold ofTrigger
  split_ifs <;> simp

/-- A frame that is taken for a heartbeat asks for the interval of its action. -/
lemma eq_of_heartbeat {envelope : Envelope} {interval : Option Duration}
    (h : ofEnvelope envelope = .heartbeat interval) :
    interval = envelope.action.bind interval? := by
  unfold ofEnvelope at h
  split at h
  case h_2 => exact (Route.heartbeat.inj h).symm
  case h_5 => exact absurd h (ofTrigger_ne_heartbeat envelope interval)
  all_goals exact absurd h (by simp)

end Route

/-- The interval that a frame asks for is not empty. -/
lemma Inbound.pos_of_interval? {frame : Inbound} {d : Duration} (h : frame.interval? = some d) :
    .zero < d := by
  have hbeat : frame.heartbeat? = some (some d) := Option.join_eq_some_iff.1 h
  unfold heartbeat? at hbeat
  split at hbeat
  · split at hbeat
    · exact absurd hbeat (by simp)
    · split at hbeat
      · next hroute =>
        obtain rfl := Option.some.inj hbeat
        obtain ⟨action, -, ha⟩ := Option.bind_eq_some_iff.1 (Route.eq_of_heartbeat hroute).symm
        exact Route.pos_of_interval? ha
      · exact absurd hbeat (by simp)
  · exact absurd hbeat (by simp)

/-- A session with an interval keeps one. -/
lemma Session.pos_hear {s : Session} (h : .zero < s.interval) (now : Duration) (frame : Inbound) :
    .zero < (s.hear now frame).interval := by
  rw [interval_hear]
  cases hi : frame.interval? with
  | none => exact h
  | some d => exact Inbound.pos_of_interval? hi

namespace Feed

variable {may : Conduct} {respond : Respond} {depth : Nat} {wake : Wake} {event : Event}
  {g k : Generation} {f f' : Feed}

/-- A span that is not empty ends later than now. -/
lemma lt_after {span : Duration} (h : .zero < span) : f.now < f.after span := by
  have hpos : 0 < span.nanos := h
  exact Nat.lt_add_of_pos_right hpos

/-! ### Intervals that are kept -/

/-- No interval for which the tasks of a feed may have to wait is empty. -/
structure Paced (f : Feed) : Prop where
  settings : .zero < f.settings.heartbeatInterval
  sessions : ∀ g ∈ f.generations, ∀ s, g.session = some s → .zero < s.interval
  reading : ∀ g ∈ f.generations, ∀ socket interval deadline,
    g.loop = .reading socket interval deadline → .zero < interval

/-- The interval of the feed is the one of a session or of the settings. -/
lemma Paced.heartbeatInterval (h : f.Paced) : .zero < f.heartbeatInterval := by
  unfold Feed.heartbeatInterval
  cases hs : f.session? with
  | none => exact h.settings
  | some s =>
    obtain ⟨e, -, hof⟩ := Option.bind_eq_some_iff.1 hs
    obtain ⟨g, hg, hgs⟩ := Option.bind_eq_some_iff.1 hof
    exact h.sessions g (List.mem_of_find?_eq_some hg) s hgs

/-- A feed is made only of settings that have been checked. -/
lemma validate_of_ofSettings {settings : Settings} {refreshable : Bool}
    (h : ofSettings settings refreshable = .ok f) : settings.validate = .ok () := by
  unfold ofSettings at h
  cases hv : settings.validate with
  | error e => simp [hv, bind, Except.bind] at h
  | ok _ => rfl

/-- Settings that have been checked have an interval. -/
lemma paced_of_ofSettings {settings : Settings} {refreshable : Bool}
    (h : ofSettings settings refreshable = .ok f) : f.Paced := by
  have hv : settings.validate = .ok () := validate_of_ofSettings h
  obtain ⟨request, rfl⟩ := eq_of_ofSettings h
  refine ⟨?_, fun g hg => absurd hg (by simp), fun g hg => absurd hg (by simp)⟩
  have hne := (Settings.validateBy_eq_ok_iff.1 hv).2.1
  exact Nat.pos_of_ne_zero fun h => hne (congrArg Duration.mk h)

/-- The session of a generation has an interval, and if its read loop waits for a frame, it does so
for an interval that begins now. -/
structure Awaits (f : Feed) (g : Generation) : Prop where
  session : ∀ s, g.session = some s → .zero < s.interval
  reading : ∀ socket interval deadline, g.loop = .reading socket interval deadline →
    .zero < interval ∧ deadline = f.after interval

/-- A read loop that waits for the interval of its session does so from now on. -/
lemma awaits_of_reading {socket : Nat} {s : Session} (hs : k.session = some s)
    (hpos : .zero < s.interval) (hl : k.loop = .reading socket s.interval (f.after s.interval)) :
    f.Awaits k where
  session s' hs' := Option.some.inj (hs.symm.trans hs') ▸ hpos
  reading socket' interval deadline hl' := by
    obtain ⟨-, rfl, rfl⟩ := LoopPhase.reading.inj (hl.symm.trans hl')
    exact ⟨hpos, rfl⟩

/-- A read loop that does not read waits for no frame. -/
lemma awaits_of_not_reading (hs : ∀ s, k.session = some s → .zero < s.interval)
    (hl : k.loop.isReading = false) : f.Awaits k where
  session := hs
  reading socket interval deadline hl' := absurd hl (by simp [hl', LoopPhase.isReading])

section Turns

variable (hr : Respects (WellFormed may) (fun _ f g => f.Later g ∧ Idles f g) respond)

include hr

/-- A turn of its read loop leaves a generation without an empty interval. -/
lemma LoopTurn.awaits (ht : LoopTurn respond g f wake f')
    (hf : g.loop ≠ .waiting → f.WellFormed may) (hp : f.Paced) (htuned : f.Tuned)
    (hg : g ∈ f.generations) (he : g.epoch ≤ f.epoch) (hk : k ∈ f'.generations)
    (hke : k.epoch = g.epoch) : f.Awaits k := by
  have hleft : ∀ {phase : LoopPhase} {j : Feed}, phase.isReading = false →
      j.generations = f.generations → k ∈ (j.setLoop g.epoch phase).generations → f.Awaits k := by
    intro phase j hphase hj hmem
    obtain ⟨i, hi, -, rfl⟩ := exists_of_mem_changeGeneration hmem hke
    exact awaits_of_not_reading (hp.sessions i (hj ▸ hi)) hphase
  cases ht with
  | opened hl socket =>
    obtain ⟨s, hs, hvital, hloop⟩ := session_loopConnected hr (hf (by simp [hl])) he hk hke
    have hinterval : s.interval = f.settings.heartbeatInterval := congrArg Prod.fst hvital
    have hpos : .zero < s.interval := hinterval ▸ hp.settings
    rcases hloop with hloop | ⟨hloop, -⟩
    · exact awaits_of_reading hs hpos hloop
    · exact awaits_of_not_reading (fun s' hs' => Option.some.inj (hs.symm.trans hs') ▸ hpos)
        (by rw [hloop]; rfl)
  | received hl hframe =>
    have hopen := htuned g hg (by simp [hl, LoopPhase.isReading])
    obtain ⟨s, hgs⟩ := Option.isSome_iff_exists.1 hopen.session
    obtain ⟨hs, hloop, -⟩ := session_loopFrame hr hframe (hf (by simp [hl])) hg rfl hgs hk hke
    exact awaits_of_reading hs (Session.pos_hear (hp.sessions g hg s hgs) _ _) hloop
  | @failed _ error hfail =>
    have hw : g.loop ≠ .waiting := by
      intro hw
      simp [Generation.failure?, hw] at hfail
    obtain ⟨hs, hloop, -⟩ := session_failed hr (hf hw) hg rfl hk hke
    exact awaits_of_not_reading (fun s h => hp.sessions g hg s (hs.symm.trans h))
      (by rw [hloop]; rfl)
  | began => exact hleft rfl rfl hk
  | left => exact hleft rfl rfl hk
  | closing => exact hleft rfl rfl hk
  | closed => exact hleft rfl rfl hk
  | panicked => exact hleft rfl rfl hk

/-- A guardian that is asleep after its turn has fallen asleep for the interval of the feed. -/
lemma WatchTurn.asleep (ht : WatchTurn respond g f wake f') (hf : f.WellFormed may)
    (hg : g ∈ f.generations) (hk : k ∈ f'.generations) (hke : k.epoch = g.epoch)
    {deadline : Duration} (hw : k.watch = .asleep deadline) :
    deadline = f'.after f'.heartbeatInterval := by
  have hagain : f' = f.watchAgain g.epoch → deadline = f'.after f'.heartbeatInterval := by
    rintro rfl
    obtain ⟨j, hj, hje, rfl⟩ := exists_of_mem_changeGeneration hk hke
    have hsame : (f.watchAgain g.epoch).heartbeatInterval = f.heartbeatInterval := by
      have hsession : (f.watchAgain g.epoch).session? = f.session? := by
        unfold watchAgain setWatch
        apply session?_changeGeneration
        exact fun _ => ⟨rfl, rfl⟩
      unfold heartbeatInterval
      rw [hsession]
      rfl
    rw [hsame, after_congr (show (f.watchAgain g.epoch).now = f.now from rfl)]
    dsimp only at hw
    split at hw
    · exact absurd hw (by simp)
    · exact (WatchPhase.asleep.inj hw).symm
  have hgone : k.watch = .finished → deadline = f'.after f'.heartbeatInterval :=
    fun h => absurd (h.symm.trans hw) (by simp)
  cases ht with
  | began => exact hagain rfl
  | slept => exact hagain rfl
  | ended =>
    obtain ⟨j, -, -, rfl⟩ := exists_of_mem_changeGeneration hk hke
    exact hgone rfl
  | reported =>
    have hsp := spares_connectionLost hr (onTurn_none _) (hf.setWatch g.epoch .finished) g.epoch 0
    obtain ⟨j, hj, hje, -, hwatch⟩ := (hsp.generations k hk).resolve_right fun hu =>
      Nat.not_lt.2 (hf.epoch_le hg) (hke ▸ hu.1)
    obtain ⟨i, -, -, rfl⟩ := exists_of_mem_changeGeneration hj (hje.trans hke)
    exact hgone (hwatch (by simp))

end Turns

/-! ### Steps -/

/-- A step of its read loop leaves a generation without an empty interval. -/
lemma awaits_of_step? (hf : f.WellFormed may) (hp : f.Paced) (htuned : f.Tuned)
    (hs : f.step? depth event = some f') (hk : k ∈ f'.generations)
    (hturn : Event.task? event = some (.loop k.epoch)) : f'.Awaits k := by
  cases event with
  | run task wake =>
    obtain rfl : task = .loop k.epoch := Option.some.inj hturn
    have hnow : f'.now = f.now := by
      rcases spares_of_step? hf hs with ⟨now, he, -⟩ | hsp
      · exact absurd he (by simp)
      · exact hsp.now
    obtain ⟨g, hg, hge, -, ht⟩ := loopTurn_of_step? hf hs
    rw [← hge] at ht
    have hturn : g.loop ≠ .waiting →
        { f with current := some (.loop g.epoch) }.WellFormed may := hf.setCurrentLoop hg
    obtain ⟨hsession, hreading⟩ := ht.awaits ((partwise_idles.conducted may).respond depth) hturn
      ⟨hp.settings, hp.sessions, hp.reading⟩ htuned hg (hf.epoch_le hg) hk hge.symm
    refine ⟨hsession, fun socket interval deadline hl => ?_⟩
    rw [after_congr hnow]
    exact hreading socket interval deadline hl
  | _ => exact absurd hturn (by simp [Event.task?])

/-- Every step keeps intervals. -/
lemma Paced.step (hp : f.Paced) (hf : f.WellFormed may) (htuned : f.Tuned)
    (hs : f.step? depth event = some f') : f'.Paced := by
  rcases spares_of_step? hf hs with ⟨now, rfl, -, rfl⟩ | hsp
  · exact ⟨hp.settings, hp.sessions, hp.reading⟩
  have hall : ∀ k ∈ f'.generations, (∀ s, k.session = some s → .zero < s.interval) ∧
      ∀ socket interval deadline, k.loop = .reading socket interval deadline →
        .zero < interval := by
    intro k hk
    by_cases hturn : Event.task? event = some (.loop k.epoch)
    · have haw := awaits_of_step? hf hp htuned hs hk hturn
      exact ⟨haw.session, fun socket interval deadline hl =>
        (haw.reading socket interval deadline hl).1⟩
    · rcases hsp.generations k hk with ⟨g, hg, -, hkept, -⟩ | ⟨-, hu⟩
      · obtain ⟨hloop, hsession⟩ := hkept hturn
        exact ⟨hsession ▸ hp.sessions g hg, hloop ▸ hp.reading g hg⟩
      · exact ⟨by simp [hu.session], by simp [hu.loop]⟩
  exact ⟨hsp.settings ▸ hp.settings, fun k hk => (hall k hk).1, fun k hk => (hall k hk).2⟩

/-- No feed that is reached has an empty interval. -/
lemma Reachable.paced (hr : Reachable depth anyEvent f) : f.Paced := by
  have h : f.WellFormed Conduct.free ∧ f.Tuned ∧ f.Paced := by
    refine hr.invariant (fun g => g.Tuned ∧ g.Paced) (fun _ event _ => event.keeps_free)
      (fun settings refreshable f₀ h₀ => ⟨?_, paced_of_ofSettings h₀⟩)
      fun g event g' hf _ h hs => ⟨h.1.step hf hs, h.2.step hf h.1 hs⟩
    obtain ⟨request, rfl⟩ := eq_of_ofSettings h₀
    exact fun g hg => absurd hg (by simp)
  exact h.2.2

/-- A heartbeat asks for an interval of `n` seconds exactly when its action, without the white space
around it, is a decimal numeral for `n`, and `n` is neither zero nor too large for 64 bits. In all
other cases it asks for none.

Whatever heartbeats ask for, in a feed that is reached neither the interval of the feed nor the one
of a session is empty. Whenever a read loop begins to wait for a frame, or a guardian to sleep, it
does so for such an interval, and until a later instant. -/
theorem intervals_pos (depth : Nat) :
    (∀ (envelope : Envelope) (action : String),
      envelope.control? = some .heartbeat → envelope.action = some action →
      ∃ interval, Route.ofEnvelope envelope = .heartbeat interval ∧
        (∀ n, interval = some (.ofSeconds n) ↔
          Text.Denotes 10 (Text.trimBy Text.isBlank action.toList) n ∧
            1 ≤ n ∧ n ≤ 2 ^ 64 - 1) ∧
        (interval = none ↔
          ¬ ∃ n, Text.Denotes 10 (Text.trimBy Text.isBlank action.toList) n ∧
            1 ≤ n ∧ n ≤ 2 ^ 64 - 1)) ∧
      ∀ f, Reachable depth anyEvent f →
        .zero < f.heartbeatInterval ∧
          (∀ g ∈ f.generations, ∀ s, g.session = some s → .zero < s.interval) ∧
          (∀ g ∈ f.generations, ∀ socket interval deadline,
            g.loop = .reading socket interval deadline → .zero < interval) ∧
          ∀ event f', f.step? depth event = some f' → ∀ g ∈ f'.generations,
            (Event.task? event = some (.loop g.epoch) → ∀ socket interval deadline,
              g.loop = .reading socket interval deadline →
                deadline = f'.after interval ∧ f'.now < deadline) ∧
              (Event.task? event = some (.watch g.epoch) → ∀ deadline,
                g.watch = .asleep deadline →
                  deadline = f'.after f'.heartbeatInterval ∧ f'.now < deadline) := by
  refine ⟨fun envelope action hcontrol haction => ?_, fun f hr => ?_⟩
  · have hroute : Route.ofEnvelope envelope = .heartbeat (Route.interval? action) := by
      simp [Route.ofEnvelope, hcontrol, haction]
    refine ⟨_, hroute, fun n => Route.interval?_eq_some_iff, fun hnone => ?_, fun hno => ?_⟩
    · rintro ⟨n, hn⟩
      exact absurd (hnone.symm.trans (Route.interval?_eq_some_iff.2 hn)) (by simp)
    · cases hi : Route.interval? action with
      | none => rfl
      | some d =>
        obtain ⟨n, rfl⟩ := Route.exists_seconds hi
        exact absurd ⟨n, Route.interval?_eq_some_iff.1 hi⟩ hno
  · have hf : f.WellFormed Conduct.free := hr.wellFormed fun _ event _ => event.keeps_free
    refine ⟨hr.paced.heartbeatInterval, hr.paced.sessions, hr.paced.reading,
      fun event f' hs g hg => ⟨fun hturn socket interval deadline hl => ?_,
        fun hturn deadline hw => ?_⟩⟩
    · obtain ⟨hpos, rfl⟩ :=
        (awaits_of_step? hf hr.paced hr.tuned hs hg hturn).reading socket interval deadline hl
      exact ⟨rfl, lt_after hpos⟩
    · have hlast : deadline = f'.after f'.heartbeatInterval := by
        cases event with
        | run task wake =>
          obtain rfl : task = .watch g.epoch := Option.some.inj hturn
          obtain ⟨k, hk, hke, -, ht⟩ := watchTurn_of_step? hf hs
          rw [← hke] at ht
          exact ht.asleep ((partwise_idles.conducted .free).respond depth)
            (hf.turn (.watch k.epoch) (by simp)) hk hg hke.symm hw
        | _ => exact absurd hturn (by simp [Event.task?])
      exact ⟨hlast, hlast ▸ lt_after (hr.step trivial hs).paced.heartbeatInterval⟩

/-- A heartbeat asks for five seconds in a roundabout way. The read loop waits for them from
then on. -/
theorem intervals_pos_instances :
    (∃ envelope : Envelope, envelope.control? = some .heartbeat ∧
        envelope.action = some " +0005\u2003" ∧
        Route.ofEnvelope envelope = .heartbeat (some (.ofSeconds 5))) ∧
      ∃ f f' : Feed, Reachable 0 anyEvent f ∧
        f.step? 0 (.run (.loop 1)
          (.frame (.text "<Event><control>_0</control><action>+0005</action></Event>"))) =
            some f' ∧
        .zero < f'.heartbeatInterval ∧
        ∃ g ∈ f'.generations, ∃ deadline, g.loop = .reading 0 (.ofSeconds 5) deadline ∧
          f'.now < deadline := by
  obtain ⟨hgrammar, hreached⟩ := intervals_pos 0
  refine ⟨?_, ?_⟩
  · let envelope : Envelope := { controlCode := "_0", action := some " +0005\u2003" }
    obtain ⟨interval, hroute, hsome, -⟩ := hgrammar envelope _ (by decide) rfl
    have hdigits : Text.AreDigits 10 "0005".toList [0, 0, 0, 5] := by
      unfold Text.AreDigits
      decide
    have hfive : interval = some (.ofSeconds 5) :=
      (hsome 5).2 ⟨⟨"0005".toList, [0, 0, 0, 5], .inr (by decide +kernel), by decide, hdigits, rfl⟩,
        by decide, by decide⟩
    exact ⟨envelope, by decide, rfl, hfive ▸ hroute⟩
  · let events : List Event :=
      [.call (.start 0), .run (.loop 1) .first, .run (.loop 1) (.connected 0)]
    let frame : Inbound := .text "<Event><control>_0</control><action>+0005</action></Event>"
    have hplay : ∃ f ∈ played? 0 events, ∃ f' ∈ f.step? 0 (.run (.loop 1) (.frame frame)),
        f'.generations.map (fun g => (g.epoch, g.loop)) =
          [(1, .reading 0 (.ofSeconds 5) (f'.after (.ofSeconds 5)))] := by decide +kernel
    obtain ⟨f, hf, f', hf', hview⟩ := hplay
    have hr : Reachable 0 anyEvent f := .of_played? hf fun _ _ _ => trivial
    obtain ⟨g, hgens, hg⟩ := List.map_eq_singleton_iff.1 hview
    obtain ⟨hepoch, hloop⟩ := Prod.mk.inj hg
    have hmem : g ∈ f'.generations := by simp [hgens]
    obtain ⟨-, -, -, hsteps⟩ := hreached f hr
    have hturn := (hsteps _ f' hf' g hmem).1 (congrArg (fun e => some (Task.loop e)) hepoch.symm)
    exact ⟨f, f', hr, hf', (hreached f' (hr.step trivial hf')).1, g, hmem, _, hloop,
      (hturn _ _ _ hloop).2⟩

end Feed

end EventFeed
