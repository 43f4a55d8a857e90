import EventFeed.Proofs.Backoff
import EventFeed.Proofs.Feed.Sessions
import EventFeed.Proofs.Feed.Undisturbed

/-!
# The walk along the backoff schedule

A feed that cannot connect goes through rounds: it connects, it loses the connection, it waits. With
every round the number of the attempt grows, and the delay goes on along the schedule. Guardians
wake up beside it, as often as the interval asks for, and report nothing: while a read loop
connects, no session is there that could go quiet, and the loop has not ended; and once it has, the
loss has been reported.

`Walk` is a run in which a feed is started and left to itself, and in which some attempts have
failed and none has succeeded. `Walking` says all that is known then.
-/

namespace EventFeed

/-- A read loop neither gets connected with the event nor panics. -/
def Event.Futile : Event → Prop
  | .run (.loop _) (.connected _) => False
  | .run (.loop _) .panicked => False
  | _ => True

/-- The number of attempts to connect that fail with an event. -/
def Event.failures : Event → Nat
  | .run (.loop _) (.connectFailed _) => 1
  | .run (.loop _) .elapsed => 1
  | _ => 0

namespace Feed

variable {depth k : Nat} {settings : Settings} {first : UInt32} {event : Event} {f f' : Feed}

/-- Nobody operates the feed. -/
def aside : Feed → Event → Prop := fun _ event => event.Aside

/-- Nobody operates the feed, and no attempt to connect comes to anything, be it success or
failure. -/
def idly : Feed → Event → Prop := fun _ event =>
  event.Aside ∧ event.Futile ∧ event.failures = 0

/-- A feed has been started with the number of an attempt and is left to itself, and so many
attempts to connect have failed since, and none has succeeded. -/
inductive Walk (depth : Nat) (settings : Settings) (first : UInt32) : Nat → Feed → Prop
  | started {refreshable : Bool} {f₀ f f' : Feed} (h₀ : ofSettings settings refreshable = .ok f₀)
      (hr : Reaches depth aside f₀ f) (hs : f.step? depth (.call (.start first)) = some f') :
      Walk depth settings first 0 f'
  | step {k : Nat} {f f' : Feed} {event : Event} (h : Walk depth settings first k f)
      (ha : event.Aside) (hf : event.Futile) (hs : f.step? depth event = some f') :
      Walk depth settings first (k + event.failures) f'

/-- The statuses of rounds of failed attempts, the latest first. -/
def rounds : Nat → List ConnectionState
  | 0 => []
  | k + 1 => .reconnecting :: .lostConnection :: .initializing :: rounds k

/-- The statuses that are still to come before the next attempt, the latest first. -/
def ahead : ConnectionState → List ConnectionState
  | .lostConnection => [.initializing, .reconnecting]
  | .reconnecting => [.initializing]
  | _ => []

/-- What is known of a feed that has been started with the number of an attempt and left to itself,
after some failed attempts and before one that succeeds. -/
structure Walking (first : UInt32) (k : Nat) (f : Feed) : Prop where
  sound : f.standing.Sound
  status : f.status ≠ .connected
  length : f.reconnects.length = k
  retries : ∀ (i : Nat) r, f.reconnects[i]? = some r →
    r.retries = f.backoff.attemptAfter first i ∧ r.aborted = false
  retry : f.status = .initializing → f.retry.attempt = f.backoff.attemptAfter first k
  slot : f.status = .initializing → f.slot = some f.epoch
  published : ahead f.status ++ f.published = .initializing :: rounds k
  sessions : ∀ g ∈ f.generations, g.session = none
  connecting : f.status = .initializing → ∀ g ∈ f.generations, g.epoch = f.epoch →
    g.loop.rank ≤ 1
  ended : ∀ g ∈ f.generations, f.status = .initializing ∧ g.epoch = f.epoch ∨ g.loop = .finished

/-! ### What a step finds -/

/-- No step changes the settings. -/
lemma settings_of_step? (hf : f.WellFormed .silent) (hs : f.step? depth event = some f') :
    f'.settings = f.settings := by
  rcases spares_of_step? hf hs with ⟨now, -, -, rfl⟩ | hsp
  · rfl
  · exact hsp.settings

/-- No step changes the delays. -/
lemma backoff_of_step? (hf : f.WellFormed .silent) (hs : f.step? depth event = some f') :
    f'.backoff = f.backoff := by
  rw [backoff, settings_of_step? hf hs, backoff]

/-- While a feed walks, a generation whose read loop is not at its end is the current one, which
connects. -/
lemma Walking.current (h : Walking first k f) {g : Generation} (hg : g ∈ f.generations)
    (hl : g.loop ≠ .finished) :
    f.status = .initializing ∧ g.epoch = f.epoch ∧ g.loop.rank ≤ 1 := by
  obtain ⟨hs, he⟩ := (h.ended g hg).resolve_right hl
  exact ⟨hs, he, h.connecting hs g hg he⟩

/-- While a feed walks, no session is installed. -/
lemma Walking.session? (h : Walking first k f) (hp : f.Placed False) : f.session? = none := by
  have hno : f.installed = none := by
    by_contra hne
    obtain ⟨e, he⟩ := Option.ne_none_iff_exists'.1 hne
    obtain ⟨g, hg, -, hopen⟩ := hp.opened e he
    have := hopen.session
    simp [h.sessions g hg] at this
  rw [Feed.session?, hno, Option.bind_none]

/-- While a feed walks, a loss of the current epoch is reported by a read loop whose attempt fails,
with the number of that attempt. -/
lemma Walking.loss (h : Walking first k f) (hf : f.WellFormed .silent) (hp : f.Placed False)
    (hs : f.status = .initializing) {loss : Loss} (hl : f.loss? event = some loss)
    (he : loss.epoch = f.epoch) : event.failures = 1 ∧ loss.retries = f.retry.attempt := by
  unfold loss? at hl
  split at hl
  · next e wake =>
    obtain ⟨error, hfail, rfl⟩ := Option.map_eq_some_iff.1 hl
    obtain ⟨g, hg, hfail⟩ := Option.bind_eq_some_iff.1 hfail
    obtain ⟨hmem, hge⟩ := hf.generation?_eq_some_iff.1 hg
    have he : e = f.epoch := he
    have hrank := h.connecting hs g hmem (hge.trans he)
    refine ⟨?_, rfl⟩
    unfold Generation.failure? at hfail
    split at hfail <;> simp_all [Event.failures, LoopPhase.rank]
  · next e =>
    -- The guardian finds nothing to report.
    split at hl
    case isFalse => exact absurd hl (by simp)
    case isTrue hst =>
      obtain ⟨rfl, hst⟩ := hst
      have hsession : { f with current := some (.watch f.epoch) }.session? = none := h.session? hp
      simp only [isStale, hsession, Option.filter_none, Option.any_none, Bool.or_false,
        Bool.and_eq_true, loopEnded, Option.any_eq_true] at hst
      obtain ⟨hslot, g, hg, hend⟩ := hst
      obtain ⟨hmem, hge⟩ := hf.generation?_eq_some_iff.1 hg
      have hrank := h.connecting hs g hmem hge
      have hun := hf.held g hmem (by simpa [hge] using hslot)
      cases hloop : g.loop <;> simp_all [LoopPhase.rank, hun.loop]
  · exact absurd hl (by simp)

/-- While a feed walks, an attempt that fails is reported, and the feed goes by the report. -/
lemma Walking.heeds (h : Walking first k f) (hf : f.WellFormed .silent)
    (hs : f.step? depth event = some f') (hfail : event.failures ≠ 0) :
    ∃ loss, f.loss? event = some loss ∧ f.heeds loss = true := by
  have hheeds : ∀ {e : Nat} {wake : Wake} {g : Generation} {error : TransportError},
      g ∈ f.generations → g.epoch = e → g.failure? f.settings wake = some error →
      ∃ loss, f.loss? (.run (.loop e) wake) = some loss ∧ f.heeds loss = true := by
    intro e wake g error hg hge herr
    obtain ⟨hinit, he, -⟩ := h.current hg (by intro hl; simp [Generation.failure?, hl] at herr)
    refine ⟨{ reporter := .loop e, epoch := e, retries := f.retry.attempt }, ?_, ?_⟩
    · rw [loss?, hf.generation?_eq_some_iff.2 ⟨hg, hge⟩, Option.bind_some, herr, Option.map_some]
    · simp [Feed.heeds, isLive, hinit, ConnectionState.isHalted, ← hge, he]
  unfold Event.failures at hfail
  split at hfail
  · obtain ⟨g, hg, hge, -, hturn⟩ := loopTurn_of_step? hf hs
    cases hturn with
    | failed herr => exact hheeds hg hge herr
  · obtain ⟨g, hg, hge, -, hturn⟩ := loopTurn_of_step? hf hs
    cases hturn with
    | failed herr => exact hheeds hg hge herr
  · exact absurd rfl hfail

/-- While a feed walks, only the read loop that connects has a turn. -/
lemma Walking.turn (h : Walking first k f) (hf : f.WellFormed .silent) {e : Nat} {wake : Wake}
    (hs : f.step? depth (.run (.loop e) wake) = some f') :
    f.status = .initializing ∧ e = f.epoch := by
  cases stepped_of_step? hf hs with
  | looped hg _ hrun =>
    obtain ⟨hinit, he, -⟩ := h.current hg hrun.ne_finished
    exact ⟨hinit, he⟩

/-- While a feed walks, the turn of a read loop gets it to connect, or its attempt fails and it
ends. -/
lemma Walking.loopTurn (h : Walking first k f) (hf : f.WellFormed .silent) {e : Nat} {wake : Wake}
    (hfut : (Event.run (.loop e) wake).Futile) (hs : f.step? depth (.run (.loop e) wake) = some f')
    {g : Generation} (hg : g ∈ f'.generations) (hge : g.epoch = e) :
    g.session = none ∧
      (g.loop.rank ≤ 1 ∧ (Event.run (.loop e) wake).failures = 0 ∨
        g.loop = .finished ∧ (Event.run (.loop e) wake).failures ≠ 0) := by
  have hr := (partwise_idles.conducted .silent).respond depth
  obtain ⟨i, hi, rfl, -, hturn⟩ := loopTurn_of_step? hf hs
  have hcur : i.loop ≠ .finished → f.status = .initializing ∧ i.epoch = f.epoch ∧
      i.loop.rank ≤ 1 := h.current hi
  cases hturn with
  | began =>
    obtain ⟨j, hj, -, rfl⟩ := exists_of_mem_changeGeneration hg hge
    exact ⟨h.sessions j hj, .inl ⟨Nat.le_refl _, rfl⟩⟩
  | opened => exact hfut.elim
  | failed herr =>
    have hlive : i.loop ≠ .waiting ∧ i.loop ≠ .finished := by
      constructor <;> intro hl <;> simp [Generation.failure?, hl] at herr
    obtain ⟨-, -, hrank⟩ := hcur hlive.2
    obtain ⟨hsession, hloop, -⟩ :=
      session_failed hr (hf.setCurrentLoop hi hlive.1) hi rfl hg hge
    refine ⟨hsession.trans (h.sessions i hi), .inr ⟨hloop, ?_⟩⟩
    unfold Generation.failure? at herr
    split at herr <;> simp_all [Event.failures, LoopPhase.rank]
  | received hl => simpa [hl, LoopPhase.rank] using (hcur (by simp [hl])).2.2
  | left hl hsig =>
    obtain ⟨-, hie, -⟩ := hcur (by rcases hl with hl | ⟨d, hl⟩ <;> simp [hl])
    have hheld := (hf.held i hi (hie ▸ hf.slot_of_epoch_eq hi hie)).signalled
    simp [hheld] at hsig
  | closing hl => simpa [hl, LoopPhase.rank] using (hcur (by simp [hl])).2.2
  | closed hl => simpa [hl, LoopPhase.rank] using (hcur (by simp [hl])).2.2
  | panicked => exact hfut.elim

/-- What a generation can be after a step of a feed that walks: it has begun with the step, or it is
the current one and connects, or its read loop is at its end. -/
def Admits (f : Feed) (event : Event) (g : Generation) : Prop :=
  g.session = none ∧
    (f.epoch < g.epoch ∧ g.loop = .waiting ∨
      (f.status = .initializing ∧ g.epoch = f.epoch) ∧ event.failures = 0 ∧ g.loop.rank ≤ 1 ∨
      g.epoch ≤ f.epoch ∧ g.loop = .finished ∧
        (f.status = .initializing ∧ g.epoch = f.epoch → event.failures ≠ 0))

/-- Nothing but the read loop that connects has a turn. -/
lemma Walking.admits (h : Walking first k f) (hf : f.WellFormed .silent)
    (hfut : event.Futile) (hs : f.step? depth event = some f') {g : Generation}
    (hg : g ∈ f'.generations) : f.Admits event g := by
  -- A generation that stays as it was connects, unless its read loop is at its end already.
  have hsame : ∀ i ∈ f.generations, i.epoch = g.epoch → g.loop = i.loop → g.session = i.session →
      Event.task? event ≠ some (.loop g.epoch) → f.Admits event g := by
    intro i hi hie hl hsession htask
    refine ⟨hsession.trans (h.sessions i hi), .inr ?_⟩
    by_cases hcur : f.status = .initializing ∧ g.epoch = f.epoch
    · refine .inl ⟨hcur, ?_, hl ▸ h.connecting hcur.1 i hi (hie.trans hcur.2)⟩
      unfold Event.failures
      split
      · next e _ => exact absurd (by rw [(h.turn hf hs).2, hcur.2]; rfl) htask
      · next e => exact absurd (by rw [(h.turn hf hs).2, hcur.2]; rfl) htask
      · rfl
    · exact .inr ⟨hie ▸ hf.epoch_le hi, hl.trans ((h.ended i hi).resolve_left (hie ▸ hcur)),
        fun hc => absurd hc hcur⟩
  rcases spares_of_step? hf hs with ⟨now, rfl, -, rfl⟩ | hsp
  · exact hsame g hg rfl rfl rfl (by simp [Event.task?])
  by_cases htask : Event.task? event = some (.loop g.epoch)
  · cases event with
    | run task wake =>
      obtain rfl : task = .loop g.epoch := Option.some.inj htask
      obtain ⟨hsession, hloop⟩ := h.loopTurn hf hfut hs hg rfl
      refine ⟨hsession, .inr ?_⟩
      rcases hloop with ⟨hrank, hno⟩ | ⟨hend, hfail⟩
      · exact .inl ⟨h.turn hf hs, hno, hrank⟩
      · exact .inr ⟨Nat.le_of_eq (h.turn hf hs).2, hend, fun _ => hfail⟩
    | _ => exact absurd htask (by simp [Event.task?])
  · rcases hsp.generations g hg with ⟨i, hi, hie, hl, -⟩ | ⟨hlt, hu⟩
    · obtain ⟨hloop, hsession⟩ := hl htask
      exact hsame i hi hie hloop hsession htask
    · exact ⟨hu.session, .inl ⟨hlt, hu.loop⟩⟩

/-- In the epoch that goes on, the current generation connects unless the attempt has failed, and no
other read loop has come back. -/
lemma Walking.loops_of_epoch_eq (h : Walking first k f) (hf : f.WellFormed .silent)
    (hf' : f'.WellFormed .silent) (hfut : event.Futile) (hs : f.step? depth event = some f')
    (he : f'.epoch = f.epoch) : ∀ g ∈ f'.generations,
      (f.status = .initializing ∧ g.epoch = f.epoch) ∧ event.failures = 0 ∧ g.loop.rank ≤ 1 ∨
        g.loop = .finished ∧
          (f.status = .initializing ∧ g.epoch = f.epoch → event.failures ≠ 0) := by
  intro g hg
  have hle := hf'.epoch_le hg
  rcases (h.admits hf hfut hs hg).2 with ⟨hlt, -⟩ | hcur | ⟨-, hend⟩
  · omega
  · exact .inl hcur
  · exact .inr hend

/-- What holds of each member of a list and of what comes last. -/
lemma forall_getElem?_concat {α : Type} {p : Nat → α → Prop} {front : List α} {a : α} :
    (∀ (i : Nat) b, (front ++ [a])[i]? = some b → p i b) ↔
      (∀ (i : Nat) b, front[i]? = some b → p i b) ∧ p front.length a := by
  constructor
  · intro h
    refine ⟨fun i b hb => h i b ?_, h _ _ List.getElem?_concat_length⟩
    rwa [List.getElem?_append_left (List.getElem?_eq_some_iff.1 hb).1]
  · rintro ⟨hfront, ha⟩ i b hb
    rcases Nat.lt_trichotomy i front.length with hlt | rfl | hgt
    · exact hfront i b (by rwa [List.getElem?_append_left hlt] at hb)
    · rw [List.getElem?_concat_length] at hb
      exact Option.some.inj hb ▸ ha
    · rw [List.getElem?_eq_none (by simp; omega)] at hb
      exact absurd hb (by simp)

section Step

variable (h : Walking first k f) (hf : f.WellFormed .silent) (hf' : f'.WellFormed .silent)
  (hfut : event.Futile) (hs : f.step? depth event = some f') (hsound : f'.standing.Sound)

include h hf hf' hfut hs hsound

/-- A feed that stands as before goes on walking, and no attempt has failed. -/
lemma Walking.stays (hl : ∀ loss, f.loss? event = some loss → f.heeds loss = false)
    (hstand : f'.standing = f.standing) : Walking first (k + event.failures) f' := by
  simp only [standing, Standing.mk.injEq] at hstand
  obtain ⟨hst, hep, -, hslot, hretry, hrec, -, hpub⟩ := hstand
  have hback := backoff_of_step? hf hs
  have hno : event.failures = 0 := by
    by_contra hfail
    obtain ⟨loss, hloss, hheeds⟩ := h.heeds hf hs hfail
    exact absurd (hheeds.symm.trans (hl loss hloss)) (by simp)
  have hloops := h.loops_of_epoch_eq hf hf' hfut hs hep
  exact {
    sound := hsound
    status := hst ▸ h.status
    length := by rw [hrec, hno]; exact h.length
    retries := by rw [hrec, hback]; exact h.retries
    retry := by rw [hst, hretry, hback, hno]; exact h.retry
    slot := by rw [hst, hslot, hep]; exact h.slot
    published := by rw [hst, hpub, hno]; exact h.published
    sessions := fun g hg => (h.admits hf hfut hs hg).1
    connecting := fun hinit g hg hge => by
      rcases hloops g hg with ⟨-, -, hrank⟩ | ⟨-, hfail⟩
      · exact hrank
      · exact absurd hno (hfail ⟨hst ▸ hinit, hge.trans hep⟩)
    ended := fun g hg => by
      rw [hst, hep]
      exact (hloops g hg).imp And.left And.left }

/-- A feed that loses its connection goes on walking, and an attempt has failed: a reconnect has
been scheduled with its number. -/
lemma Walking.lost (hp : f.Placed False) {loss : Loss} (hl : f.loss? event = some loss)
    (he : loss.epoch = f.epoch) (hst : f.status = .initializing ∨ f.status = .connected)
    (hstand : f'.standing =
      { f.standing with
        status := .lostConnection
        claim := f.epoch
        reconnects := f.reconnects ++
          [{ scheduled := true, delay := none, retries := loss.retries }]
        published := .lostConnection :: f.published }) :
    Walking first (k + event.failures) f' := by
  simp only [standing, Standing.mk.injEq] at hstand
  obtain ⟨hst', hep, -, -, -, hrec, -, hpub⟩ := hstand
  have hinit : f.status = .initializing := hst.resolve_right h.status
  obtain ⟨hfail, hret⟩ := h.loss hf hp hinit hl he
  have hloops := h.loops_of_epoch_eq hf hf' hfut hs hep
  have hold : f.published = .initializing :: rounds k := by
    simpa [hinit, ahead] using h.published
  exact {
    sound := hsound
    status := by rw [hst']; decide
    length := by rw [hrec, List.length_append, h.length, hfail]; rfl
    retries := by
      rw [hrec, backoff_of_step? hf hs, forall_getElem?_concat, h.length]
      exact ⟨h.retries, hret.trans (h.retry hinit), rfl⟩
    retry := fun hi => absurd (hst'.symm.trans hi) (by simp)
    slot := fun hi => absurd (hst'.symm.trans hi) (by simp)
    published := by rw [hst', hpub, hold, hfail]; rfl
    sessions := fun g hg => (h.admits hf hfut hs hg).1
    connecting := fun hi => absurd (hst'.symm.trans hi) (by simp)
    ended := fun g hg => by
      rcases hloops g hg with ⟨-, hno, -⟩ | ⟨hend, -⟩
      · omega
      · exact .inr hend }

/-- A feed whose last reconnect falls asleep goes on walking. -/
lemma Walking.waits {front : List Reconnect} {r : Reconnect} {phase : ReconnectPhase}
    (hst : f.status = .lostConnection) (hn : f.reconnects = front ++ [r])
    (hno : event.failures = 0)
    (hstand : f'.standing =
      { f.standing with
        status := .reconnecting
        epoch := f.epoch + 1
        slot := none
        reconnects := front ++ [{ r with phase }]
        published := .reconnecting :: f.published }) :
    Walking first (k + event.failures) f' := by
  simp only [standing, Standing.mk.injEq] at hstand
  obtain ⟨hst', hep, -, hslot, -, hrec, -, hpub⟩ := hstand
  have hret := h.retries
  rw [hn, forall_getElem?_concat] at hret
  have hold : .reconnecting :: f.published = rounds k := by
    simpa [hst, ahead] using h.published
  exact {
    sound := hsound
    status := by rw [hst']; decide
    length := by rw [hrec, hno, ← h.length, hn]; simp
    retries := by
      rw [hrec, backoff_of_step? hf hs, forall_getElem?_concat]
      exact hret
    retry := fun hi => absurd (hst'.symm.trans hi) (by simp)
    slot := fun hi => absurd (hst'.symm.trans hi) (by simp)
    published := by rw [hst', hpub, hold, hno]; rfl
    sessions := fun g hg => (h.admits hf hfut hs hg).1
    connecting := fun hi => absurd (hst'.symm.trans hi) (by simp)
    ended := fun g hg => by
      rcases (h.admits hf hfut hs hg).2 with ⟨hlt, -⟩ | ⟨⟨hinit, -⟩, -⟩ | ⟨-, hend, -⟩
      · -- No generation goes by the epoch that has begun.
        have hle := hf'.epoch_le hg
        have := hf'.slot_of_epoch_eq hg (by omega)
        exact absurd (hslot.symm.trans this) (by simp)
      · exact absurd (hst.symm.trans hinit) (by simp)
      · exact .inr hend }

/-- A feed whose last reconnect wakes up goes on walking: it connects, with the next number. -/
lemma Walking.again {front : List Reconnect} {r : Reconnect} {phase : ReconnectPhase}
    (hst : f.status = .reconnecting) (hn : f.reconnects = front ++ [r]) (hno : event.failures = 0)
    (hstand : f'.standing =
      { f.standing with
        status := .initializing
        epoch := f.epoch + 1
        slot := some (f.epoch + 1)
        retry := { attempt := f.backoff.nextAttempt r.retries }
        reconnects := front ++ [{ r with phase }]
        published := .initializing :: f.published }) :
    Walking first (k + event.failures) f' := by
  simp only [standing, Standing.mk.injEq] at hstand
  obtain ⟨hst', hep, -, hslot, hretry, hrec, -, hpub⟩ := hstand
  have hback := backoff_of_step? hf hs
  have hret := h.retries
  rw [hn, forall_getElem?_concat] at hret
  have hlen : front.length + 1 = k := by rw [← h.length, hn]; simp
  have hold : f.published = rounds k := by
    simpa [hst, ahead] using h.published
  have hnew : ∀ g ∈ f'.generations,
      g.epoch = f'.epoch ∧ g.loop = .waiting ∨ g.epoch ≠ f'.epoch ∧ g.loop = .finished := by
    intro g hg
    have hle := hf'.epoch_le hg
    rcases (h.admits hf hfut hs hg).2 with ⟨hlt, hwait⟩ | ⟨⟨hinit, -⟩, -⟩ | ⟨hpast, hend, -⟩
    · exact .inl ⟨by omega, hwait⟩
    · exact absurd (hst.symm.trans hinit) (by simp)
    · exact .inr ⟨by omega, hend⟩
  exact {
    sound := hsound
    status := by rw [hst']; decide
    length := by rw [hrec, hno, ← hlen]; simp
    retries := by
      rw [hrec, hback, forall_getElem?_concat]
      exact hret
    retry := fun _ => by
      rw [hretry, hback, hret.2.1, hno, ← hlen]
      rfl
    slot := fun _ => by rw [hslot, hep]
    published := by rw [hst', hpub, hold, hno]; rfl
    sessions := fun g hg => (h.admits hf hfut hs hg).1
    connecting := fun _ g hg hge => by
      rcases hnew g hg with ⟨-, hwait⟩ | ⟨hne, -⟩
      · rw [hwait]
        exact Nat.zero_le _
      · exact absurd hge hne
    ended := fun g hg => (hnew g hg).imp (fun hw => ⟨hst', hw.1⟩) And.right }

end Step

/-- A feed that walks goes on walking, with one more failure if an attempt has failed. -/
theorem Walking.step (h : Walking first k f) (hf : f.WellFormed .silent) (hp : f.Placed False)
    (ha : event.Aside) (hfut : event.Futile) (hs : f.step? depth event = some f') :
    Walking first (k + event.failures) f' := by
  have hf' : f'.WellFormed .silent := wellFormed_step hf ha.keeps hs
  have hadv := advance_of_step? hf hp h.sound ha hs
  have hsound := hadv.sound hf.claim h.sound
  cases hadv with
  | stays _ hl hstand => exact h.stays hf hf' hfut hs hsound hl hstand
  | connected => exact hfut.elim
  | lost hl he hst hstand => exact h.lost hf hf' hfut hs hsound hp hl he hst hstand
  | waits hst hn _ hstand => exact h.waits hf hf' hfut hs hsound hst hn rfl hstand
  | again hst hn _ _ _ hstand => exact h.again hf hf' hfut hs hsound hst hn rfl hstand

/-! ### Runs -/

/-- How a feed stands that has not been started. -/
def unstarted : Standing where
  status := .notStarted
  epoch := 0
  claim := 0
  slot := none
  retry := {}
  reconnects := []
  disconnects := []
  published := []

/-- A feed that has not been started does nothing by itself. -/
lemma unstarted_of_step? (hf : f.WellFormed .silent) (ha : event.Aside)
    (hs : f.step? depth event = some f') (hg : f.generations = []) (hn : f.standing = unstarted) :
    f'.generations = [] ∧ f'.standing = unstarted := by
  simp only [standing, unstarted, Standing.mk.injEq] at hn
  obtain ⟨hstatus, hepoch, hclaim, hslot, hretry, hrec, hdis, hpub⟩ := hn
  have hn : f.standing = unstarted := by
    simp only [standing, unstarted, Standing.mk.injEq]
    exact ⟨hstatus, hepoch, hclaim, hslot, hretry, hrec, hdis, hpub⟩
  have hengine : ∀ {g : Feed}, g.engine = { f with current := none }.engine →
      g.generations = [] ∧ g.standing = unstarted := fun h =>
    ⟨(eq_of_engine h Feed.generations fun _ => rfl).trans hg, (standing_of_engine h).trans hn⟩
  cases stepped_of_step? hf hs with
  | called call =>
    cases call with
    | subscribe target name handler =>
      exact hengine (engine_subscribe _ target name handler)
    | unsubscribe handle =>
      exact hengine (engine_unsubscribe _ handle)
    | publishEvent event =>
      have hr : Restrained .silent (Feed.respond depth) := (conducted_quiet .silent).respond depth
      have hnote : ({ f with current := none }.note (.eventPublished event)).WellFormed .silent :=
        hf.noTurn.note _
      have hq := ((conducted_quiet .silent).publishEvent hr hnote).2.2 fun _ h => h
      exact ⟨(eq_of_engine hq Feed.generations fun _ => rfl).trans hg,
        (standing_of_engine hq).trans hn⟩
    | _ => exact ha.elim
  | looped hmem => exact absurd hmem (by simp [hg])
  | watched hmem => exact absurd hmem (by simp [hg])
  | reconnectBegan hr => exact absurd hr (by simp [hrec])
  | reconnectEnded hr => exact absurd hr (by simp [hrec])
  | disconnectBegan hd => exact absurd hd (by simp [hdis])
  | disconnectJoined hd => exact absurd hd (by simp [hdis])
  | disconnectAbandoned hd => exact absurd hd (by simp [hdis])
  | refreshed hb =>
    obtain ⟨c, hc, -⟩ := hb.generations
    exact ⟨by rw [hc]; simp [hg], hb.standing.trans hn⟩
  | ticked => exact ⟨hg, hn⟩
  | reconnectGivenUp h => exact absurd h (by simp [hrec])
  | disconnectGivenUp =>
    refine ⟨hg, Eq.trans ?_ hn⟩
    simp [standing, hdis, published]

/-- A feed that is started for the first time begins to walk. -/
lemma walking_of_start (hf : f.WellFormed .silent) (hg : f.generations = [])
    (hn : f.standing = unstarted) (hs : f.step? depth (.call (.start first)) = some f') :
    Walking first 0 f' := by
  have hr : Restrained .silent (Feed.respond depth) := (conducted_quiet .silent).respond depth
  have hkeeps : (Event.call (.start first)).Keeps .silent := trivial
  have hf' : f'.WellFormed .silent := wellFormed_step hf hkeeps hs
  have hstatus : f.status = .notStarted := congrArg Standing.status hn
  have hepoch : f.epoch = 0 := congrArg Standing.epoch hn
  have hpub : f.published = [] := congrArg Standing.published hn
  have hnew : f'.standing = { unstarted with
      status := .initializing
      epoch := 1
      slot := some 1
      retry := { attempt := first }
      published := [.initializing] } := by
    have hsame : ({ f with current := none }.standing,
        ({ f with current := none } : Feed).published) = (unstarted, []) := Prod.ext hn hpub
    obtain ⟨hsame, hpub⟩ := Prod.mk.inj hsame
    have hstart := standing_startWhere hr hf.noTurn (fun f => f.status ≠ .connected)
      (by simp [hstatus]) (by simp [hstatus]) first
    have hcall : f' = (startWhere (Feed.respond depth) (fun f => f.status ≠ .connected) first
        { f with current := none }).2 := (Option.some.inj hs).symm
    rw [hcall, hstart, hsame, hpub, hepoch]
  simp only [standing, unstarted, Standing.mk.injEq] at hnew
  obtain ⟨hstatus', hepoch', hclaim, hslot, hretry, hrec, hdis, hpub'⟩ := hnew
  have hborn : ∀ g ∈ f'.generations, g.epoch = f'.epoch ∧ g.Unborn := by
    intro g hg'
    rcases spares_of_step? hf hs with ⟨now, hno, -⟩ | hsp
    · exact absurd hno (by simp)
    · rcases hsp.generations g hg' with ⟨i, hi, -⟩ | ⟨hlt, hu⟩
      · exact absurd hi (by simp [hg])
      · have hle := hf'.epoch_le hg'
        exact ⟨by omega, hu⟩
  exact {
    sound := by
      refine ⟨hdis, by simp [standing, hrec], ?_⟩
      simp [standing, hstatus', hclaim, hepoch', hrec]
    status := by rw [hstatus']; decide
    length := by rw [hrec]; rfl
    retries := by simp [hrec]
    retry := fun _ => by rw [hretry]; rfl
    slot := fun _ => by rw [hslot, hepoch']
    published := by rw [hstatus', hpub']; rfl
    sessions := fun g hg' => (hborn g hg').2.session
    connecting := fun _ g hg' _ => by rw [(hborn g hg').2.loop]; exact Nat.zero_le _
    ended := fun g hg' => .inl ⟨hstatus', (hborn g hg').1⟩ }

/-- A feed that nobody has started yet is as blank as it was made. -/
lemma unstarted_of_reaches {refreshable : Bool} {f₀ : Feed}
    (h₀ : ofSettings settings refreshable = .ok f₀) (hr : Reaches depth aside f₀ f) :
    f.WellFormed .silent ∧ f.generations = [] ∧ f.standing = unstarted ∧ f.settings = settings := by
  refine hr.invariant (fun f => f.generations = [] ∧ f.standing = unstarted ∧ f.settings = settings)
    (.of_ofSettings h₀) ?_ (fun _ _ ha => Event.Aside.keeps ha) ?_
  · obtain ⟨request, rfl⟩ := eq_of_ofSettings h₀
    exact ⟨rfl, rfl, rfl⟩
  · rintro g event h hg ha ⟨hgen, hstand, hset⟩ hs
    obtain ⟨hgen', hstand'⟩ := unstarted_of_step? hg ha hs hgen hstand
    exact ⟨hgen', hstand', (settings_of_step? hg hs).trans hset⟩

/-- Every run in which nobody operates the feed is one in which no subscriber does. -/
lemma Reaches.keeps {g : Feed} (h : Reaches depth aside f g) :
    Reaches depth (fun _ event => event.Keeps .silent) f g := by
  induction h with
  | refl => exact .refl
  | step _ ha hs ih => exact ih.step ha.keeps hs

/-- What a walk leads to is reached. -/
lemma Walk.reachable (h : Walk depth settings first k f) :
    Reachable depth (fun _ event => event.Keeps .silent) f := by
  induction h with
  | started h₀ hr hs =>
    have hkeeps : (Event.call (.start first)).Keeps .silent := trivial
    exact ⟨_, _, _, h₀, hr.keeps.step hkeeps hs⟩
  | step _ ha _ hs ih => exact ih.step ha.keeps hs

/-- Between steps, what is reached with silent subscribers is in order and in its place. -/
lemma Reachable.silent (h : Reachable depth (fun _ event => event.Keeps .silent) f) :
    f.WellFormed .silent ∧ f.Placed False :=
  ⟨h.wellFormed fun _ _ he => he, (h.placed False.elim).2⟩

/-- All that is known of a feed that walks holds throughout, and the settings stay. -/
theorem Walk.walking (h : Walk depth settings first k f) :
    Walking first k f ∧ f.settings = settings := by
  induction h with
  | started h₀ hr hs =>
    obtain ⟨hf, hgen, hstand, hset⟩ := unstarted_of_reaches h₀ hr
    exact ⟨walking_of_start hf hgen hstand hs, (settings_of_step? hf hs).trans hset⟩
  | step h ha hfut hs ih =>
    obtain ⟨hf, hp⟩ := h.reachable.silent
    obtain ⟨hwalk, hset⟩ := ih
    exact ⟨hwalk.step hf hp ha hfut hs, (settings_of_step? hf hs).trans hset⟩

end Feed

end EventFeed
