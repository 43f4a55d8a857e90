import EventFeed.Proofs.Feed.Overlap
import EventFeed.Proofs.Feed.Reports
import EventFeed.Proofs.Feed.Restraint

/-!
# Feeds that are left to themselves

A feed that has been started goes on by itself: it gets connected or it loses its connection, a
reconnect is scheduled and waits, and the feed starts again. If neither callers nor subscribers
operate it meanwhile, that is all that happens to it: `Advance` tells these steps apart, with all
that changes about how the feed stands, and every other step leaves that as it is.
-/

namespace EventFeed

/-- No operation answers any notice. -/
def Conduct.silent : Conduct := fun _ _ => False

/-- Nobody operates the feed or publishes a status past it, and no subscriber is brought in that
would operate it. -/
def Event.Aside : Event → Prop
  | .call (.subscribe _ _ handler) => handler.Keeps .silent
  | .call (.unsubscribe _) => True
  | .call (.publishEvent _) => True
  | .call _ => False
  | _ => True

/-- Whoever is brought in aside is silent. -/
lemma Event.Aside.keeps {event : Event} (h : event.Aside) : event.Keeps .silent := by
  cases event with
  | call call => cases call <;> first | exact h | trivial
  | _ => trivial

namespace Feed

/-- What there is to a feed that is left to itself, but for where the tasks of its generations are.
-/
structure Standing where
  status : ConnectionState
  epoch : Nat
  claim : Nat
  slot : Option Nat
  retry : RetryState
  reconnects : List Reconnect
  disconnects : List Disconnect
  published : List ConnectionState

/-- How a feed stands. -/
def standing (f : Feed) : Standing where
  status := f.status
  epoch := f.epoch
  claim := f.claim
  slot := f.slot
  retry := f.retry
  reconnects := f.reconnects
  disconnects := f.disconnects
  published := f.published

variable {respond : Respond} {e : Nat} {f f' g : Feed}

/-- Subscribers have no part in how a feed stands. -/
lemma standing_of_engine (he : g.engine = f.engine) : g.standing = f.standing :=
  eq_of_engine he standing fun k => by
    unfold standing
    rw [published_engine]
    rfl

/-- Work of read loops has no part in it either. -/
lemma Busy.standing (hb : f.Busy g) : g.standing = f.standing := by
  have hpub := hb.published
  obtain ⟨_, _, _, _, _, rfl⟩ := hb.rest
  unfold Feed.standing
  rw [hpub]

/-! ### Operations of the feed itself -/

section Silent

variable (hr : Restrained .silent respond)

include hr

/-- Nobody answers an announcement. -/
lemma Told.engine {s : ConnectionState} (ht : Told respond s f g) (hf : f.WellFormed .silent) :
    g.engine = (f.announce s).engine :=
  ((conducted_quiet .silent).told hr ht (hf.announce s)).2.2 fun _ h => h

/-- An announcement changes the status and says so. -/
lemma Told.standing {s : ConnectionState} (ht : Told respond s f g) (hf : f.WellFormed .silent) :
    g.standing = { f.standing with status := s, published := s :: f.published } :=
  standing_of_engine (ht.engine hr hf)

/-- A lost connection that counts is said, and a reconnect is scheduled. -/
lemma standing_connectionLost (hf : f.WellFormed .silent) (he : f.epoch = e) (hc : f.claim < e)
    (hs : f.status = .initializing ∨ f.status = .connected) (retries : UInt32) :
    (f.connectionLost respond e retries).standing =
      { f.standing with
        status := .lostConnection
        claim := e
        reconnects := f.reconnects ++ [{ scheduled := true, delay := none, retries }]
        published := .lostConnection :: f.published } := by
  rcases connectionLost_cases respond e retries f with ⟨hno, -⟩ | ⟨-, -, k, ht, hk⟩
  · rcases hs with hs | hs <;> simp [hs, he, isLive, ConnectionState.isHalted] at hno
  · have hstand := ht.standing hr hf
    have hepoch : k.epoch = e := (congrArg Standing.epoch hstand).trans he
    have hclaim : k.claim = f.claim := congrArg Standing.claim hstand
    rw [hk]
    rcases scheduleReconnect_cases e retries k with ⟨hno, -⟩ | ⟨-, -, hsch⟩
    · omega
    · have hrec : k.reconnects = f.reconnects := congrArg Standing.reconnects hstand
      have hsched : (k.scheduleReconnect e retries).standing =
          { k.standing with
            claim := e
            reconnects := k.reconnects ++ [{ scheduled := true, delay := none, retries }] } := by
        rw [hsch]
        rfl
      rw [hsched, hstand, hrec]

/-- A reconnect that begins after a loss says that the feed is reconnecting, and it sleeps for the
delay of its number in the epoch that begins. -/
lemma standing_beginReconnect (hf : f.WellFormed .silent) (hs : f.status = .lostConnection)
    {n : Nat} {r : Reconnect} (hd : r.delay = none) :
    (f.beginReconnect respond n r).standing =
      { f.standing with
        status := .reconnecting
        epoch := f.epoch + 1
        slot := none
        reconnects := f.reconnects.modify n fun q =>
          { q with phase := .asleep (f.after (f.backoff.delayFor r.retries)) (f.epoch + 1) }
        published := .reconnecting :: f.published } := by
  have hhalt : f.haltTasks.standing = { f.standing with epoch := f.epoch + 1, slot := none } ∧
      (f.haltTasks.now, f.haltTasks.settings) = (f.now, f.settings) := by
    rw [haltTasks_eq]
    exact ⟨rfl, rfl⟩
  obtain ⟨hstand, htime⟩ := hhalt
  have hstatus : f.haltTasks.status = .lostConnection := (congrArg Standing.status hstand).trans hs
  rcases beginReconnect_cases respond n r f with ⟨-, hh, -⟩ | ⟨-, k, ⟨hk, -⟩ | ⟨-, ht⟩, he⟩
  · simp [hs, ConnectionState.isHalted] at hh
  · exact absurd (hstatus.symm.trans hk) (by simp)
  · have hkc := ht.standing hr hf.haltTasks
    have hkt : (k.now, k.settings) = (f.now, f.settings) :=
      (eq_of_engine (ht.engine hr hf.haltTasks) (fun k => (k.now, k.settings)) fun _ => rfl).trans
        htime
    obtain ⟨hnow, hset⟩ := Prod.mk.inj hkt
    have hepoch : k.epoch = f.epoch + 1 :=
      (congrArg Standing.epoch hkc).trans (congrArg Standing.epoch hstand)
    have hrec : k.reconnects = f.reconnects :=
      (congrArg Standing.reconnects hkc).trans (congrArg Standing.reconnects hstand)
    have hpub : f.haltTasks.published = f.published := congrArg Standing.published hstand
    have hsleep : (k.sleepReconnect n r).standing =
        { k.standing with
          reconnects := k.reconnects.modify n fun q => { q with
            phase := .asleep (k.after (r.delay.getD (k.backoff.delayFor r.retries))) k.epoch } } :=
      rfl
    have hafter : k.after (r.delay.getD (k.backoff.delayFor r.retries)) =
        f.after (f.backoff.delayFor r.retries) := by
      rw [hd, backoff, hset]
      unfold after
      rw [hnow]
      rfl
    rw [he, hsleep, hafter, hepoch, hrec, hkc, hstand, hpub]

/-- A start that is accepted says so, and a generation begins in a new epoch. -/
lemma standing_startWhere (hf : f.WellFormed .silent) (allowed : Feed → Bool)
    (ha : allowed f = true) (hs : f.status ≠ .initializing) (retries : UInt32) :
    (startWhere respond allowed retries f).2.standing =
      { f.standing with
        status := .initializing
        epoch := f.epoch + 1
        slot := some (f.epoch + 1)
        retry := { attempt := retries }
        published := .initializing :: f.published } := by
  rcases startWhere_cases respond allowed retries f with
    ⟨hno, -⟩ | ⟨-, -, k, ht, ⟨hk, -⟩ | ⟨-, he⟩⟩
  · simp [hs, ha] at hno
  · exact absurd (congrArg Standing.status (ht.standing hr hf)) hk
  · have hkc := ht.standing hr hf
    have hepoch : k.epoch = f.epoch := congrArg Standing.epoch hkc
    have hgen : (k.generate retries).standing =
        { k.standing with
          epoch := k.epoch + 1
          slot := some (k.epoch + 1)
          retry := { attempt := retries } } := by
      unfold generate
      rw [abortSlot_eq]
      rfl
    rw [he, hgen, hepoch, hkc]

/-- A socket that is opened while the feed connects gets it connected. -/
lemma standing_loopConnected (hf : f.WellFormed .silent) (he : f.epoch = e)
    (hs : f.status = .initializing) (socket : Nat) :
    (f.loopConnected respond e socket).standing =
      { f.standing with
        status := .connected
        retry := {}
        published := .connected :: f.published } := by
  have hopening := (busy_opening e socket f).standing
  have hinstall : ((f.opening e socket).install e).standing =
      { (f.opening e socket).standing with retry := {} } := rfl
  rcases loopConnected_opening respond e socket f with
    ⟨hne, -⟩ | ⟨-, hst, -⟩ | ⟨-, -, -, k, ht, hk⟩
  · exact absurd he hne
  · simp [hs, ConnectionState.isHalted] at hst
  · have hsame : ((k.log .info "Event stream connected"
        [epochField e, ("url", k.request.url)]).awaitFrame e socket).standing = k.standing := rfl
    have hnew := ht.standing hr ((hf.busy (busy_opening e socket f)).install e)
    have hpub : ((f.opening e socket).install e).published = f.published :=
      (busy_opening e socket f).published
    rw [hk, hsame, hnew, hinstall, hopening, hpub]

end Silent

/-! ### Steps -/

/-- The feed stands as it can when it has been started and left to itself: all reconnects have been
scheduled, and all are at their end but the last one while the feed waits for it. -/
def Standing.Sound (s : Standing) : Prop :=
  s.disconnects = [] ∧ (∀ r ∈ s.reconnects, r.scheduled = true ∧ r.delay = none) ∧
    match s.status with
    | .initializing | .connected =>
      s.claim < s.epoch ∧ ∀ r ∈ s.reconnects, r.phase = .finished
    | .lostConnection =>
      ∃ front r, s.reconnects = front ++ [r] ∧ r.phase = .waiting ∧
        ∀ q ∈ front, q.phase = .finished
    | .reconnecting =>
      ∃ front r t, s.reconnects = front ++ [r] ∧ r.phase = .asleep t s.epoch ∧
        ∀ q ∈ front, q.phase = .finished
    | _ => False

/-- What a step comes to in a feed that has been started and left to itself. -/
inductive Advance (f : Feed) : Event → Feed → Prop
  /-- It is no turn of a reconnect, and nothing changes about how the feed stands. -/
  | stays {event : Event} {f' : Feed} (hn : ∀ n, Event.task? event ≠ some (.reconnect n))
      (hl : ∀ loss, f.loss? event = some loss → f.heeds loss = false)
      (h : f'.standing = f.standing) : Advance f event f'
  /-- The read loop that is held has opened a session. -/
  | connected {socket : Nat} {f' : Feed} (hs : f.status = .initializing)
      (h : f'.standing =
        { f.standing with
          status := .connected
          retry := {}
          published := .connected :: f.published }) :
      Advance f (.run (.loop f.epoch) (.connected socket)) f'
  /-- A task that is held has reported a loss. -/
  | lost {event : Event} {loss : Loss} {f' : Feed} (hl : f.loss? event = some loss)
      (he : loss.epoch = f.epoch) (hs : f.status = .initializing ∨ f.status = .connected)
      (h : f'.standing =
        { f.standing with
          status := .lostConnection
          claim := f.epoch
          reconnects := f.reconnects ++
            [{ scheduled := true, delay := none, retries := loss.retries }]
          published := .lostConnection :: f.published }) :
      Advance f event f'
  /-- The last reconnect has fallen asleep for the delay of its number. -/
  | waits {front : List Reconnect} {r : Reconnect} {f' : Feed} (hs : f.status = .lostConnection)
      (hn : f.reconnects = front ++ [r]) (hfront : ∀ q ∈ front, q.phase = .finished)
      (h : f'.standing =
        { f.standing with
          status := .reconnecting
          epoch := f.epoch + 1
          slot := none
          reconnects := front ++
            [{ r with
              phase := .asleep (f.after (f.backoff.delayFor r.retries)) (f.epoch + 1) }]
          published := .reconnecting :: f.published }) :
      Advance f (.run (.reconnect front.length) .first) f'
  /-- The last reconnect has slept for as long as it had to, and the feed starts again. -/
  | again {front : List Reconnect} {r : Reconnect} {t : Duration} {f' : Feed}
      (hs : f.status = .reconnecting) (hn : f.reconnects = front ++ [r])
      (hfront : ∀ q ∈ front, q.phase = .finished) (hp : r.phase = .asleep t f.epoch)
      (ht : t ≤ f.now)
      (h : f'.standing =
        { f.standing with
          status := .initializing
          epoch := f.epoch + 1
          slot := some (f.epoch + 1)
          retry := { attempt := f.backoff.nextAttempt r.retries }
          reconnects := front ++ [{ r with phase := .finished }]
          published := .initializing :: f.published }) :
      Advance f (.run (.reconnect front.length) .elapsed) f'

section Steps

variable {event : Event} {depth : Nat}

/-- In a feed that is left to itself only the last reconnect is not at its end, and its phase tells
the status. -/
lemma Standing.Sound.last (hc : f.standing.Sound) {n : Nat} {r : Reconnect}
    (hn : f.reconnects[n]? = some r) (hp : r.phase ≠ .finished) :
    ∃ front, f.reconnects = front ++ [r] ∧ front.length = n ∧
      (∀ q ∈ front, q.phase = .finished) ∧
      ((f.status = .lostConnection ∧ r.phase = .waiting) ∨
        (f.status = .reconnecting ∧ ∃ t, r.phase = .asleep t f.epoch)) := by
  obtain ⟨-, -, hphase⟩ := hc
  have hlast : ∀ front q, f.reconnects = front ++ [q] → (∀ p ∈ front, p.phase = .finished) →
      front.length = n ∧ q = r := by
    intro front q hf hfront
    rw [hf] at hn
    rcases Nat.lt_trichotomy n front.length with hlt | rfl | hgt
    · rw [List.getElem?_append_left hlt] at hn
      exact absurd (hfront r (List.mem_of_getElem? hn)) hp
    · rw [List.getElem?_concat_length] at hn
      exact ⟨rfl, Option.some.inj hn⟩
    · rw [List.getElem?_eq_none (by simp; omega)] at hn
      exact absurd hn (by simp)
  have hstatus : f.standing.status = f.status := rfl
  rw [hstatus] at hphase
  split at hphase
  · exact absurd (hphase.2 r (List.mem_of_getElem? hn)) hp
  · exact absurd (hphase.2 r (List.mem_of_getElem? hn)) hp
  · next hs =>
    obtain ⟨front, q, hf, hq, hfront⟩ := hphase
    obtain ⟨hlen, rfl⟩ := hlast front q hf hfront
    exact ⟨front, hf, hlen, hfront, .inl ⟨hs, hq⟩⟩
  · next hs =>
    obtain ⟨front, q, t, hf, hq, hfront⟩ := hphase
    obtain ⟨hlen, rfl⟩ := hlast front q hf hfront
    exact ⟨front, hf, hlen, hfront, .inr ⟨hs, t, hq⟩⟩
  · exact hphase.elim

/-- The feed is none of those that are halted. -/
lemma Standing.Sound.not_halted (hc : f.standing.Sound) : f.status.isHalted = false := by
  obtain ⟨-, -, hphase⟩ := hc
  have hstatus : f.standing.status = f.status := rfl
  rw [hstatus] at hphase
  cases hs : f.status <;> rw [hs] at hphase <;> first | rfl | exact hphase.elim

/-- A read loop that opens a socket gets the feed connected, if its epoch is still the current
one. -/
lemma advance_loopConnected (hr : Restrained .silent respond) {i : Generation} {d : Duration}
    (hf : f.WellFormed .silent) (hp : f.Placed False) (hc : f.standing.Sound)
    (hi : i ∈ f.generations) (hl : i.loop = .connecting d) {socket : Nat}
    (hno : f.loss? (.run (.loop i.epoch) (.connected socket)) = none) :
    Advance f (.run (.loop i.epoch) (.connected socket))
      ({ f with current := some (.loop i.epoch) }.loopConnected respond i.epoch socket) := by
  have hturn := hf.setCurrentLoop hi (by simp [hl])
  have hstays : ∀ {f' : Feed}, f'.standing = f.standing →
      Advance f (.run (.loop i.epoch) (.connected socket)) f' :=
    fun h => .stays (by simp [Event.task?]) (by simp [hno]) h
  have hopening := (busy_opening i.epoch socket { f with current := some (.loop i.epoch) }).standing
  have hclose : ∀ g : Feed, (g.beginClose i.epoch socket).standing = g.standing := fun _ => rfl
  rcases loopConnected_opening respond i.epoch socket
    { f with current := some (.loop i.epoch) } with
    ⟨-, he⟩ | ⟨he, hst, -⟩ | ⟨he, hnc, -, -⟩
  · rw [he]
    exact hstays ((hclose _).trans hopening)
  · have he : f.epoch = i.epoch := he
    rcases hst with hst | hst
    · have hst : f.status = .connected := hst
      have := hp.past (by rw [hst]; rfl) i hi he.symm
      simp [hl, LoopPhase.rank] at this
    · exact absurd (hc.not_halted.symm.trans hst) (by simp)
  · have he : f.epoch = i.epoch := he
    have hno := hp.not_outcome hi he.symm (by simp [hl, LoopPhase.rank])
    have hinit : f.status = .initializing := by
      rcases hp.status_of_live hf hi he.symm hc.not_halted with hst | hst | hst
      · exact hst
      · exact absurd hst hnc
      · rw [hst] at hno
        exact absurd hno (by decide)
    have hnew := standing_loopConnected hr hturn he hinit socket
    rw [← he] at hnew ⊢
    exact .connected hinit hnew

/-- A turn of a read loop that reports no loss may get the feed connected. -/
lemma LoopTurn.advance (hr : Restrained .silent respond) {i : Generation} {wake : Wake}
    (ht : LoopTurn respond i { f with current := some (.loop i.epoch) } wake f')
    (hf : f.WellFormed .silent) (hp : f.Placed False) (hc : f.standing.Sound)
    (hi : i ∈ f.generations) (hno : f.loss? (.run (.loop i.epoch) wake) = none) :
    Advance f (.run (.loop i.epoch) wake) f' := by
  have hstays : ∀ {g : Feed}, g.standing = f.standing → Advance f (.run (.loop i.epoch) wake) g :=
    fun h => .stays (by simp [Event.task?]) (by simp [hno]) h
  cases ht with
  | began => exact hstays rfl
  | opened hl socket => exact advance_loopConnected hr hf hp hc hi hl hno
  | failed hl =>
    rw [loss?, hf.generation?_eq_some_iff.2 ⟨hi, rfl⟩, Option.bind_some] at hno
    rw [Option.map_eq_none_iff] at hno
    exact absurd (hl.symm.trans hno) (by simp)
  | @received socket _ _ hl frame hframe =>
    have hturn := hf.setCurrentLoop hi (by simp [hl])
    obtain ⟨j, hb, -, hend⟩ := loopFrame_hears respond i.epoch socket hframe
      { f with current := some (.loop i.epoch) }
    have hj : j.standing = f.standing := hb.standing
    rcases hend with hend | ⟨event, hend⟩
    · rw [hend]
      exact hstays hj
    · have hn : (j.note (.eventPublished event)).WellFormed .silent := (hturn.busy hb).note _
      have hq := ((conducted_quiet .silent).publishEvent hr hn).2.2 fun _ h => h
      rw [hend]
      exact hstays ((standing_of_engine hq).trans hj)
  | left => exact hstays rfl
  | closing => exact hstays rfl
  | closed => exact hstays rfl
  | panicked => exact hstays rfl

/-- A report of a loss that is heeded is one of a task that is held. -/
lemma advance_connectionLost (hr : Restrained .silent (Feed.respond depth)) {loss : Loss} {k : Feed}
    (hf : f.WellFormed .silent) (hp : f.Placed False) (hc : f.standing.Sound)
    (hl : f.loss? event = some loss) (hrep : f.Reported .silent loss k)
    (hs : f' = k.connectionLost (Feed.respond depth) loss.epoch loss.retries) :
    Advance f event f' := by
  have hsame : (f.ended loss.reporter).standing = f.standing := by cases loss.reporter <;> rfl
  have hk : k.standing = f.standing := (standing_of_engine hrep.engine).trans hsame
  cases hh : f.heeds loss with
  | false =>
    rw [connectionLost_of_not_heeds _ (hrep.heeds_eq.trans hh)] at hs
    rw [hs]
    refine .stays (fun n hn => ?_) (fun loss' hl' => ?_) hk
    · cases event with
      | run task wake =>
        obtain rfl : task = .reconnect n := Option.some.inj hn
        exact absurd hl (by simp [loss?])
      | _ => exact absurd hn (by simp [Event.task?])
    · rw [← Option.some.inj (hl.symm.trans hl')]
      exact hh
  | true =>
    obtain ⟨⟨hlive, hepoch⟩, hne⟩ : (f.status.isHalted = false ∧ f.epoch = loss.epoch) ∧
        f.status ≠ .lostConnection := by simpa [heeds, isLive] using hh
    obtain ⟨i, hi, hie⟩ := hrep.generation
    have hst : f.status = .initializing ∨ f.status = .connected := by
      rcases hp.status_of_live hf hi (hie.trans hepoch.symm) hlive with h | h | h
      · exact .inl h
      · exact .inr h
      · exact absurd h hne
    have hclaim : f.claim < f.epoch := by
      obtain ⟨-, -, hphase⟩ := hc
      have hstatus : f.standing.status = f.status := rfl
      rw [hstatus] at hphase
      rcases hst with h | h <;> rw [h] at hphase <;> exact hphase.1
    refine .lost hl hepoch.symm hst ?_
    have hkc : k.claim = f.claim := congrArg Standing.claim hk
    have hke : k.epoch = f.epoch := congrArg Standing.epoch hk
    have hks : k.status = f.status := congrArg Standing.status hk
    have hkr : k.reconnects = f.reconnects := congrArg Standing.reconnects hk
    have hkp : k.published = f.published := congrArg Standing.published hk
    have hnew := standing_connectionLost hr hrep.wellFormed (hke.trans hepoch)
      (by rw [hkc, ← hepoch]; exact hclaim) (hks.symm ▸ hst) loss.retries
    rw [hs, hnew, hk, hkr, hkp, hepoch]

/-- Changing what comes last. -/
lemma modify_last {α : Type} (front : List α) (a : α) (c : α → α) :
    (front ++ [a]).modify front.length c = front ++ [c a] := by
  simp [List.modify_eq_take_drop]

/-- The last reconnect begins after a loss, and it falls asleep. -/
lemma advance_beginReconnect (hr : Restrained .silent (Feed.respond depth)) {n : Nat}
    {r : Reconnect} (hf : f.WellFormed .silent) (hc : f.standing.Sound)
    (hn : f.reconnects[n]? = some r) (hw : r.phase = .waiting) :
    Advance f (.run (.reconnect n) .first)
      ({ f with current := some (.reconnect n) }.beginReconnect (Feed.respond depth) n r) := by
  obtain ⟨front, hsplit, rfl, hfront, ⟨hs, -⟩ | ⟨-, t, hp⟩⟩ := hc.last hn (by simp [hw])
  case inr => exact absurd (hw.symm.trans hp) (by simp)
  obtain ⟨-, hd⟩ := hc.2.1 r (List.mem_of_getElem? hn)
  have hnew := standing_beginReconnect hr (hf.turn (.reconnect front.length) (by simp))
    (f := { f with current := some (.reconnect front.length) }) hs (n := front.length) hd
  refine .waits hs hsplit hfront (hnew.trans ?_)
  have hmod : (f.reconnects.modify front.length fun q => { q with
      phase := ReconnectPhase.asleep (f.after (f.backoff.delayFor r.retries)) (f.epoch + 1) }) =
      front ++ [{ r with
        phase := .asleep (f.after (f.backoff.delayFor r.retries)) (f.epoch + 1) }] := by
    rw [hsplit]
    exact modify_last front r _
  rw [← hmod]
  rfl

/-- The last reconnect wakes up, and the feed starts again. -/
lemma advance_wake (hr : Restrained .silent (Feed.respond depth)) {n : Nat}
    (hf : f.WellFormed .silent) (hc : f.standing.Sound)
    (hs : f.step? depth (.run (.reconnect n) .elapsed) = some f') :
    Advance f (.run (.reconnect n) .elapsed) f' := by
  obtain ⟨r, t, e, hn, hp, ht, hcase⟩ := wake_cases hs
  obtain ⟨front, hsplit, rfl, hfront, ⟨-, hw⟩ | ⟨hst, t', hp'⟩⟩ := hc.last hn (by simp [hp])
  · exact absurd (hw.symm.trans hp) (by simp)
  obtain ⟨rfl, rfl⟩ := ReconnectPhase.asleep.inj (hp.symm.trans hp')
  rcases hcase with ⟨hno, -⟩ | ⟨-, -, hnew⟩
  · simp [hst] at hno
  have hend : ({ f with current := some (.reconnect front.length) }.setReconnect front.length
      .finished).WellFormed .silent :=
    (hf.turn (.reconnect front.length) (by simp)).setReconnect (by simp) _
  have hstart := standing_startWhere hr hend (fun f => f.status = .reconnecting)
    (by simp [setReconnect, hst]) (by simp [setReconnect, hst]) (f.backoff.nextAttempt r.retries)
  refine .again hst hsplit hfront hp ht ?_
  have hmod : (f.reconnects.modify front.length fun q => { q with phase := .finished }) =
      front ++ [{ r with phase := .finished }] := by
    rw [hsplit]
    exact modify_last front r _
  rw [hnew, ← hmod]
  exact hstart

/-- Every step of a feed that is left to itself is an advance. -/
theorem advance_of_step? (hf : f.WellFormed .silent) (hp : f.Placed False)
    (hc : f.standing.Sound) (ha : event.Aside) (hs : f.step? depth event = some f') :
    Advance f event f' := by
  have hr : Restrained .silent (Feed.respond depth) := (conducted_quiet .silent).respond depth
  rcases loss_or_of_step? hf hs with ⟨hno, -⟩ | ⟨loss, k, hl, hrep, he⟩
  case inr => exact advance_connectionLost hr hf hp hc hl hrep he
  have hstays : ∀ {g : Feed}, (∀ n, Event.task? event ≠ some (.reconnect n)) →
      g.standing = f.standing → Advance f event g := fun hn h => .stays hn (by simp [hno]) h
  have hnone : ∀ {n : Nat} {d : Disconnect}, f.disconnects[n]? ≠ some d := by
    intro n d hd
    have hnil : f.disconnects = [] := hc.1
    simp [hnil] at hd
  cases stepped_of_step? hf hs with
  | called call =>
    have hsame : { f with current := none }.standing = f.standing := rfl
    cases call with
    | subscribe target name handler =>
      have heng := engine_subscribe { f with current := none } target name handler
      exact hstays (by simp [Event.task?]) ((standing_of_engine heng).trans hsame)
    | unsubscribe handle =>
      have heng := engine_unsubscribe { f with current := none } handle
      exact hstays (by simp [Event.task?]) ((standing_of_engine heng).trans hsame)
    | publishEvent event =>
      have hn : ({ f with current := none }.note (.eventPublished event)).WellFormed .silent :=
        hf.noTurn.note _
      have hq := ((conducted_quiet .silent).publishEvent hr hn).2.2 fun _ h => h
      exact hstays (by simp [Event.task?]) ((standing_of_engine hq).trans hsame)
    | _ => exact ha.elim
  | looped =>
    obtain ⟨i, hi, hie, -, hturn⟩ := loopTurn_of_step? hf hs
    rw [← hie] at hturn hno ⊢
    exact hturn.advance hr hf hp hc hi hno
  | watched =>
    obtain ⟨i, hi, hie, -, hturn⟩ := watchTurn_of_step? hf hs
    rw [← hie] at hturn hno
    cases hturn with
    | began => exact hstays (by simp [Event.task?]) rfl
    | ended => exact hstays (by simp [Event.task?]) rfl
    | slept => exact hstays (by simp [Event.task?]) rfl
    | reported _ _ he hst =>
      rw [loss?, if_pos ⟨he, hst⟩] at hno
      exact absurd hno (by simp)
  | reconnectBegan hn _ hw => exact advance_beginReconnect hr hf hc hn hw
  | reconnectEnded => exact advance_wake hr hf hc hs
  | disconnectBegan hd => exact absurd hd hnone
  | disconnectJoined hd => exact absurd hd hnone
  | disconnectAbandoned hd => exact absurd hd hnone
  | refreshed hb => exact hstays (by simp [Event.task?]) hb.standing
  | ticked => exact hstays (by simp [Event.task?]) rfl
  | @reconnectGivenUp n h =>
    obtain ⟨r, hn, hsch⟩ := (Option.any_eq_true _ _).1 h
    have := (hc.2.1 r (List.mem_of_getElem? hn)).1
    simp [this] at hsch
  | disconnectGivenUp =>
    have hnil : f.disconnects = [] := hc.1
    refine hstays (by simp [Event.task?]) ?_
    unfold standing
    simp [hnil, published]

/-- A feed that connects or is connected has not claimed its epoch, and waits for no reconnect. -/
lemma Standing.Sound.idle (hc : f.standing.Sound)
    (hs : f.status = .initializing ∨ f.status = .connected) :
    f.claim < f.epoch ∧ ∀ r ∈ f.reconnects, r.phase = .finished := by
  obtain ⟨-, -, hphase⟩ := hc
  have hstatus : f.standing.status = f.status := rfl
  rw [hstatus] at hphase
  rcases hs with h | h <;> rw [h] at hphase <;> exact hphase

/-- A feed that has lost its connection waits for the last reconnect to begin. -/
lemma Standing.Sound.waiting (hc : f.standing.Sound) (hs : f.status = .lostConnection) :
    ∃ front r, f.reconnects = front ++ [r] ∧ r.phase = .waiting := by
  obtain ⟨-, -, hphase⟩ := hc
  have hstatus : f.standing.status = f.status := rfl
  rw [hstatus, hs] at hphase
  obtain ⟨front, r, hn, hp, -⟩ := hphase
  exact ⟨front, r, hn, hp⟩

/-- A feed that is reconnecting waits for the last reconnect to wake up. -/
lemma Standing.Sound.asleep (hc : f.standing.Sound) (hs : f.status = .reconnecting) :
    ∃ front r t, f.reconnects = front ++ [r] ∧ r.phase = .asleep t f.epoch := by
  obtain ⟨-, -, hphase⟩ := hc
  have hstatus : f.standing.status = f.status := rfl
  rw [hstatus, hs] at hphase
  obtain ⟨front, r, t, hn, hp, -⟩ := hphase
  exact ⟨front, r, t, hn, hp⟩

/-- A feed that is left to itself goes on to stand as it can. -/
theorem Advance.sound (h : Advance f event f') (hclaim : f.claim ≤ f.epoch)
    (hc : f.standing.Sound) : f'.standing.Sound := by
  have hnil := hc.1
  have hsch := hc.2.1
  -- Nothing but the last reconnect changes, and only in its phase.
  have hlast : ∀ {front : List Reconnect} {r q : Reconnect}, f.reconnects = front ++ [r] →
      q.scheduled = r.scheduled ∧ q.delay = r.delay →
      ∀ p ∈ front ++ [q], p.scheduled = true ∧ p.delay = none := by
    intro front r q hn hq p hp
    have hold : ∀ p ∈ front ++ [r], p.scheduled = true ∧ p.delay = none := hn ▸ hsch
    rcases List.mem_append.1 hp with hp | hp
    · exact hold p (List.mem_append_left _ hp)
    · rw [List.mem_singleton.1 hp, hq.1, hq.2]
      exact hold r (List.mem_append_right _ List.mem_cons_self)
  cases h with
  | stays _ _ h => exact h ▸ hc
  | connected hs h =>
    rw [h]
    exact ⟨hnil, hsch, hc.idle (.inl hs)⟩
  | lost hl he hs h =>
    rw [h]
    refine ⟨hnil, fun r hr => ?_, f.reconnects, _, rfl, rfl, (hc.idle hs).2⟩
    rcases List.mem_append.1 hr with hr | hr
    · exact hsch r hr
    · rw [List.mem_singleton.1 hr]
      exact ⟨rfl, rfl⟩
  | @waits front r _ hs hn hfront h =>
    rw [h]
    exact ⟨hnil, hlast hn ⟨rfl, rfl⟩, front, _, _, rfl, rfl, hfront⟩
  | @again front r t _ hs hn hfront hp ht h =>
    rw [h]
    refine ⟨hnil, hlast hn ⟨rfl, rfl⟩, Nat.lt_succ_of_le hclaim, fun q hq => ?_⟩
    rcases List.mem_append.1 hq with hq | hq
    · exact hfront q hq
    · rw [List.mem_singleton.1 hq]

end Steps

end Feed

end EventFeed
