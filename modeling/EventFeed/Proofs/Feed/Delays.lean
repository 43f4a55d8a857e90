import EventFeed.Proofs.Feed.Progress
import EventFeed.Proofs.Feed.Walk

/-!
# The delays of a feed that is left to itself

A feed that has lost its connection goes on in one way only: the reconnect that has been scheduled
begins, the feed sleeps for the delay of its number, and then it starts again. `Dozes` and `Retries`
say so for a delay, whatever tasks run and however long the clock stands in between.

The delays of a walk are those of the schedule, one after the other. They end with an attempt that
succeeds: from then on the feed counts from nothing, so that after the next loss it waits for the
first delay, no matter how far it has walked.
-/

namespace EventFeed.Feed

variable {depth k : Nat} {settings : Settings} {first : UInt32} {event : Event} {f f' g : Feed}

/-- The feed sleeps for a delay from now on: for as long as nobody operates it, it is reconnecting
until the delay has passed, and then it starts again. -/
def Dozes (depth n : Nat) (delay : Duration) (f : Feed) : Prop :=
  f.status = .reconnecting ∧
    ∀ {g}, Reaches depth aside f g → g.epoch = f.epoch →
      g.status = .reconnecting ∧
      (∃ r, g.reconnects[n]? = some r ∧ r.phase = .asleep (f.after delay) f.epoch) ∧
      ∀ {event g'}, event.Aside → g.step? depth event = some g' → g'.epoch ≠ f.epoch →
        event = .run (.reconnect n) .elapsed ∧ f.after delay ≤ g.now ∧ g'.status = .initializing

/-- The feed has lost its connection, and for as long as nobody operates it, all that ends this is
that a reconnect begins and the feed sleeps for a delay. -/
def Retries (depth n : Nat) (delay : Duration) (f : Feed) : Prop :=
  f.status = .lostConnection ∧
    ∀ {event f'}, event.Aside → f.step? depth event = some f' → f'.status ≠ .lostConnection →
      event = .run (.reconnect n) .first ∧ f'.Dozes depth n delay

/-! ### Sleeping -/

/-- No step of a feed that is left to itself goes back to an earlier epoch. -/
lemma Advance.epoch_le (h : Advance f event f') : f.epoch ≤ f'.epoch := by
  cases h with
  | stays _ _ h => exact Nat.le_of_eq (congrArg Standing.epoch h).symm
  | connected _ h => exact Nat.le_of_eq (congrArg Standing.epoch h).symm
  | lost _ _ _ h => exact Nat.le_of_eq (congrArg Standing.epoch h).symm
  | waits _ _ _ h => exact Nat.le_of_lt (Nat.lt_of_lt_of_eq (Nat.lt_succ_self _)
      (congrArg Standing.epoch h).symm)
  | again _ _ _ _ _ h => exact Nat.le_of_lt (Nat.lt_of_lt_of_eq (Nat.lt_succ_self _)
      (congrArg Standing.epoch h).symm)

/-- The feed is reached by a run of silent subscribers, and it stands as it can when it has been
started and left to itself. -/
structure Alone (depth : Nat) (f : Feed) : Prop where
  reachable : Reachable depth (fun _ event => event.Keeps .silent) f
  sound : f.standing.Sound

/-- Every step of a feed that is alone is an advance, and the feed is alone still. -/
lemma Alone.advance (h : f.Alone depth) (ha : event.Aside) (hs : f.step? depth event = some f') :
    Advance f event f' ∧ f'.Alone depth := by
  obtain ⟨hf, hp⟩ := h.reachable.silent
  have hadv := advance_of_step? hf hp h.sound ha hs
  exact ⟨hadv, h.reachable.step ha.keeps hs, hadv.sound hf.claim h.sound⟩

/-- While the epoch of a feed that is reconnecting lasts, the feed stands as it did. -/
lemma Alone.standing_of_reaches (h : f.Alone depth) (hs : f.status = .reconnecting)
    (hr : Reaches depth aside f g) :
    g.Alone depth ∧ f.epoch ≤ g.epoch ∧ (g.epoch = f.epoch → g.standing = f.standing) := by
  induction hr with
  | refl => exact ⟨h, Nat.le_refl _, fun _ => rfl⟩
  | @step g g' event _ ha hstep ih =>
    obtain ⟨hg, hle, hsame⟩ := ih
    obtain ⟨hadv, hg'⟩ := hg.advance ha hstep
    have hle' := hadv.epoch_le
    refine ⟨hg', Nat.le_trans hle hle', fun he => ?_⟩
    have hsame := hsame (by omega)
    have hst : g.status = .reconnecting := (congrArg Standing.status hsame).trans hs
    cases hadv with
    | stays _ _ hstand => exact hstand.trans hsame
    | connected hi => exact absurd (hst.symm.trans hi) (by simp)
    | lost _ _ hi => rcases hi with hi | hi <;> exact absurd (hst.symm.trans hi) (by simp)
    | waits hl => exact absurd (hst.symm.trans hl) (by simp)
    | again _ _ _ _ _ hstand =>
      have hep : g'.epoch = g.epoch + 1 := congrArg Standing.epoch hstand
      omega

/-- A feed whose last reconnect has fallen asleep for a delay sleeps for it. -/
lemma Alone.dozes (h : f.Alone depth) (hs : f.status = .reconnecting) {front : List Reconnect}
    {r : Reconnect} {delay : Duration} (hn : f.reconnects = front ++ [r])
    (hp : r.phase = .asleep (f.after delay) f.epoch) : f.Dozes depth front.length delay := by
  refine ⟨hs, fun {g} hr he => ?_⟩
  obtain ⟨hg, -, hsame⟩ := h.standing_of_reaches hs hr
  have hsame := hsame he
  have hst : g.status = .reconnecting := (congrArg Standing.status hsame).trans hs
  have hrec : g.reconnects = front ++ [r] := (congrArg Standing.reconnects hsame).trans hn
  refine ⟨hst, ⟨r, by rw [hrec, List.getElem?_concat_length], hp⟩, ?_⟩
  intro event g' ha hstep hne
  obtain ⟨hadv, -⟩ := hg.advance ha hstep
  cases hadv with
  | stays _ _ hstand => exact absurd ((congrArg Standing.epoch hstand).trans he) hne
  | connected hi => exact absurd (hst.symm.trans hi) (by simp)
  | lost _ _ hi => rcases hi with hi | hi <;> exact absurd (hst.symm.trans hi) (by simp)
  | waits hl => exact absurd (hst.symm.trans hl) (by simp)
  | again _ hn' _ hp' ht hstand =>
    obtain ⟨rfl, hlast⟩ := List.append_inj' (hn'.symm.trans hrec) rfl
    obtain rfl := List.singleton_inj.1 hlast
    obtain ⟨rfl, -⟩ := ReconnectPhase.asleep.inj (hp'.symm.trans hp)
    exact ⟨rfl, ht, congrArg Standing.status hstand⟩

/-- A feed that has lost its connection sleeps next for the delay of the last reconnect. -/
lemma Alone.retries (h : f.Alone depth) (hs : f.status = .lostConnection) {front : List Reconnect}
    {r : Reconnect} (hn : f.reconnects = front ++ [r]) :
    f.Retries depth front.length (f.backoff.delayFor r.retries) := by
  refine ⟨hs, fun {event f'} ha hstep hne => ?_⟩
  obtain ⟨hadv, hf'⟩ := h.advance ha hstep
  cases hadv with
  | stays _ _ hstand => exact absurd ((congrArg Standing.status hstand).trans hs) hne
  | connected hi => exact absurd (hs.symm.trans hi) (by simp)
  | lost _ _ hi => rcases hi with hi | hi <;> exact absurd (hs.symm.trans hi) (by simp)
  | @waits front' r' _ _ hn' _ hstand =>
    obtain ⟨rfl, hlast⟩ := List.append_inj' (hn'.symm.trans hn) rfl
    obtain rfl := List.singleton_inj.1 hlast
    have hnow : f'.now = f.now := by
      rcases spares_of_step? h.reachable.silent.1 hstep with ⟨now, hno, -⟩ | hsp
      · exact absurd hno (by simp)
      · exact hsp.now
    have hepoch : f'.epoch = f.epoch + 1 := congrArg Standing.epoch hstand
    have hst' : f'.status = .reconnecting := congrArg Standing.status hstand
    refine ⟨rfl, hf'.dozes hst' (congrArg Standing.reconnects hstand) ?_⟩
    rw [after_congr hnow, hepoch]
  | again hr => exact absurd (hs.symm.trans hr) (by simp)

/-! ### After an attempt that has succeeded -/

/-- While a feed walks, a socket that is opened gets it connected. -/
lemma Walking.connected (h : Walking first k f) (hf : f.WellFormed .silent) {e socket : Nat}
    (hs : f.step? depth (.run (.loop e) (.connected socket)) = some f') :
    f.status = .initializing ∧ f'.standing =
      { f.standing with
        status := .connected
        retry := {}
        published := .connected :: f.published } := by
  obtain ⟨hinit, rfl⟩ := h.turn hf hs
  obtain ⟨g, hg, hge, -, hturn⟩ := loopTurn_of_step? hf hs
  cases hturn with
  | @opened deadline hl =>
    have hr : Restrained .silent (Feed.respond depth) := (conducted_quiet .silent).respond depth
    have hnow := hf.setCurrentLoop hg (by simp [hl])
    rw [hge] at hnow ⊢
    exact ⟨hinit, standing_loopConnected hr hnow rfl hinit socket⟩
  | failed herr => exact absurd herr (by simp [Generation.failure?])

/-- A loss is reported with the number of the attempt, or with none. -/
lemma retries_of_loss? {loss : Loss} (h : f.loss? event = some loss) :
    loss.retries = f.retry.attempt ∨ loss.retries = 0 := by
  unfold loss? at h
  split at h
  · obtain ⟨-, -, rfl⟩ := Option.map_eq_some_iff.1 h
    exact .inl rfl
  · split at h
    · exact .inr (Option.some.inj h ▸ rfl)
    · exact absurd h (by simp)
  · exact absurd h (by simp)

/-- What has been published stays published. -/
lemma Advance.published (h : Advance f event f') : ∃ news, f'.published = news ++ f.published := by
  cases h with
  | stays _ _ h => exact ⟨[], congrArg Standing.published h⟩
  | connected _ h => exact ⟨[_], congrArg Standing.published h⟩
  | lost _ _ _ h => exact ⟨[_], congrArg Standing.published h⟩
  | waits _ _ _ h => exact ⟨[_], congrArg Standing.published h⟩
  | again _ _ _ _ _ h => exact ⟨[_], congrArg Standing.published h⟩

/-- A feed that is connected and has no failure behind it stays so until it loses the connection,
and the reconnect that it schedules then has the first number. -/
lemma Alone.connected_of_reaches (h : f.Alone depth) (hs : f.status = .connected)
    (hretry : f.retry.attempt = 0) (hr : Reaches depth aside f g) :
    g.Alone depth ∧ g.settings = f.settings ∧
      ((g.status = .connected ∧ g.published = f.published ∧ g.retry.attempt = 0 ∧
          g.reconnects = f.reconnects) ∨
        (g.status = .lostConnection ∧ g.published = .lostConnection :: f.published ∧
          g.reconnects = f.reconnects ++ [{ scheduled := true, delay := none, retries := 0 }]) ∨
        ∃ rest, g.published = rest ++ .reconnecting :: .lostConnection :: f.published) := by
  induction hr with
  | refl => exact ⟨h, rfl, .inl ⟨hs, rfl, hretry, rfl⟩⟩
  | @step g g' event _ ha hstep ih =>
    obtain ⟨hg, hset, hcase⟩ := ih
    obtain ⟨hadv, hg'⟩ := hg.advance ha hstep
    refine ⟨hg', (settings_of_step? hg.reachable.silent.1 hstep).trans hset, ?_⟩
    rcases hcase with ⟨hst, hpub, hret, hrec⟩ | ⟨hst, hpub, hrec⟩ | ⟨rest, hpub⟩
    · cases hadv with
      | stays _ _ hstand =>
        simp only [standing, Standing.mk.injEq] at hstand
        obtain ⟨hst', -, -, -, hret', hrec', -, hpub'⟩ := hstand
        exact .inl ⟨hst'.trans hst, hpub'.trans hpub, by rw [hret', hret], hrec'.trans hrec⟩
      | connected hi => exact absurd (hst.symm.trans hi) (by simp)
      | @lost _ loss _ hl _ _ hstand =>
        simp only [standing, Standing.mk.injEq] at hstand
        obtain ⟨hst', -, -, -, -, hrec', -, hpub'⟩ := hstand
        have hzero : loss.retries = 0 := (retries_of_loss? hl).elim (·.trans hret) id
        exact .inr (.inl ⟨hst', by rw [hpub', hpub], by rw [hrec', hrec, hzero]⟩)
      | waits hl => exact absurd (hst.symm.trans hl) (by simp)
      | again hl => exact absurd (hst.symm.trans hl) (by simp)
    · cases hadv with
      | stays _ _ hstand =>
        simp only [standing, Standing.mk.injEq] at hstand
        obtain ⟨hst', -, -, -, -, hrec', -, hpub'⟩ := hstand
        exact .inr (.inl ⟨hst'.trans hst, hpub'.trans hpub, hrec'.trans hrec⟩)
      | connected hi => exact absurd (hst.symm.trans hi) (by simp)
      | lost _ _ hi => rcases hi with hi | hi <;> exact absurd (hst.symm.trans hi) (by simp)
      | waits _ _ _ hstand =>
        have hpub' := congrArg Standing.published hstand
        exact .inr (.inr ⟨[], hpub'.trans (by rw [hpub]; rfl)⟩)
      | again hl => exact absurd (hst.symm.trans hl) (by simp)
    · obtain ⟨news, hnews⟩ := hadv.published
      exact .inr (.inr ⟨news ++ rest, by rw [hnews, hpub, List.append_assoc]⟩)

/-! ### The walk goes on -/

/-- The feed connects, and the attempt may fail or succeed. -/
def Attempts (depth : Nat) (f : Feed) : Prop :=
  f.status = .initializing ∧
    (∀ error, (f.step? depth (.run (.loop f.epoch) (.connectFailed error))).isSome = true) ∧
    ∀ socket, (f.step? depth (.run (.loop f.epoch) (.connected socket))).isSome = true

/-- A feed whose current read loop connects makes an attempt. -/
lemma attempts_of_connecting (hf : f.WellFormed .silent) (hs : f.status = .initializing)
    {g : Generation} (hg : g ∈ f.generations) (he : g.epoch = f.epoch) {deadline : Duration}
    (hl : g.loop = .connecting deadline) : f.Attempts depth := by
  have hgen := hf.generation?_eq_some_iff.2 ⟨hg, he⟩
  have hheld := (hf.held g hg (he ▸ hf.slot_of_epoch_eq hg he)).loop
  have hmay : f.mayRun (.loop f.epoch) = true := by simp [mayRun, isAborted, hgen, hheld]
  unfold generation? at hgen
  refine ⟨hs, fun error => ?_, fun socket => ?_⟩ <;>
    simp [step?, runTask, hmay, generation?, hgen, stepLoop, hl]

/-- A walk goes on while attempts come to nothing. -/
lemma Walk.reaches (h : Walk depth settings first k f) (hr : Reaches depth idly f f') :
    Walk depth settings first k f' := by
  induction hr with
  | refl => exact h
  | step _ ha hs ih =>
    have hstep := ih.step ha.1 ha.2.1 hs
    rwa [ha.2.2] at hstep

/-- A feed that walks is alone. -/
lemma Walk.alone (h : Walk depth settings first k f) : f.Alone depth :=
  ⟨h.reachable, h.walking.1.sound⟩

/-- The last reconnect of a feed that walks has the number of its attempt, and nobody has aborted
it. -/
lemma Walking.last (h : Walking first k f) {front : List Reconnect} {r : Reconnect}
    (hn : f.reconnects = front ++ [r]) :
    k = front.length + 1 ∧ f.reconnects[front.length]? = some r ∧
      r.retries = f.backoff.attemptAfter first front.length ∧ r.aborted = false := by
  have hlast : f.reconnects[front.length]? = some r := by rw [hn, List.getElem?_concat_length]
  refine ⟨?_, hlast, h.retries _ _ hlast⟩
  rw [← h.length, hn, List.length_append, List.length_singleton]

/-- A reconnect that begins while a feed is left to itself makes it reconnecting. -/
lemma Advance.status_of_first {n : Nat} (h : Advance f (.run (.reconnect n) .first) f') :
    f'.status = .reconnecting := by
  cases h with
  | stays hno => exact absurd rfl (hno n)
  | lost hl => exact absurd hl (by simp [loss?])
  | waits _ _ _ hstand => exact congrArg Standing.status hstand

/-- A reconnect that wakes up while a feed is left to itself starts it again. -/
lemma Advance.status_of_elapsed {n : Nat} (h : Advance f (.run (.reconnect n) .elapsed) f') :
    f'.status = .initializing := by
  cases h with
  | stays hno => exact absurd rfl (hno n)
  | lost hl => exact absurd hl (by simp [loss?])
  | again _ _ _ _ _ hstand => exact congrArg Standing.status hstand

/-- A turn of a reconnect is no attempt to connect. -/
lemma idly_reconnect (n : Nat) (wake : Wake) : idly f (.run (.reconnect n) wake) :=
  ⟨trivial, trivial, rfl⟩

/-- A feed that is reconnecting starts again when its delay has passed. -/
lemma Walk.wakes (h : Walk depth settings first k f) (hs : f.status = .reconnecting) :
    ∃ f', Reaches depth idly f f' ∧ f'.status = .initializing := by
  obtain ⟨front, r, t, hn, hp⟩ := h.alone.sound.asleep hs
  obtain ⟨-, hlast, -, hab⟩ := h.walking.1.last hn
  obtain ⟨now, hnow, htick⟩ := exists_tick depth f t
  obtain ⟨f', hwake⟩ := Option.isSome_iff_exists.1
    (isSome_wake (f := { f with now, current := none }) hlast hp hab hnow depth)
  have hclock : idly f (.tick now) := ⟨trivial, trivial, rfl⟩
  have hidle : Reaches depth idly f { f with now, current := none } :=
    Reaches.refl.step hclock htick
  have hturn := idly_reconnect (f := { f with now, current := none }) front.length .elapsed
  obtain ⟨hadv, -⟩ := (h.reaches hidle).alone.advance hturn.1 hwake
  exact ⟨f', hidle.step hturn hwake, hadv.status_of_elapsed⟩

/-- A feed that walks gets to its next attempt. -/
lemma Walk.exists_initializing (h : Walk depth settings first k f) :
    ∃ f', Reaches depth idly f f' ∧ f'.status = .initializing := by
  have hlawful := h.alone.sound.2.2
  have hstatus : f.standing.status = f.status := rfl
  rw [hstatus] at hlawful
  cases hs : f.status with
  | initializing => exact ⟨f, .refl, hs⟩
  | connected => exact absurd hs h.walking.1.status
  | reconnecting => exact h.wakes hs
  | lostConnection =>
    obtain ⟨front, r, hn, hp⟩ := h.alone.sound.waiting hs
    obtain ⟨-, hlast, -, hab⟩ := h.walking.1.last hn
    have hmay : f.mayRun (.reconnect front.length) = true := by simp [mayRun, isAborted, hlast, hab]
    obtain ⟨f₁, hbegin⟩ :
        ∃ f₁, f.step? depth (.run (.reconnect front.length) .first) = some f₁ := by
      simp [step?, runTask, hmay, hlast, stepReconnect, hp]
    have hturn : idly f (.run (.reconnect front.length) .first) := idly_reconnect _ _
    have hidle : Reaches depth idly f f₁ := Reaches.refl.step hturn hbegin
    obtain ⟨hadv, -⟩ := h.alone.advance hturn.1 hbegin
    obtain ⟨f', hr, hinit⟩ := (h.reaches hidle).wakes hadv.status_of_first
    exact ⟨f', hidle.trans hr, hinit⟩
  | _ => simp [hs] at hlawful

/-- A feed that walks makes its next attempt, whatever comes of it. -/
lemma Walk.exists_attempts (h : Walk depth settings first k f) :
    ∃ f', Reaches depth idly f f' ∧ f'.Attempts depth := by
  obtain ⟨f₁, hr, hinit⟩ := h.exists_initializing
  have h₁ := h.reaches hr
  obtain ⟨hf, -⟩ := h₁.reachable.silent
  obtain ⟨-, g, hg, he⟩ := hf.slot _ (h₁.walking.1.slot hinit)
  have hrank := h₁.walking.1.connecting hinit g hg he
  cases hl : g.loop with
  | connecting deadline => exact ⟨f₁, hr, attempts_of_connecting hf hinit hg he hl⟩
  | waiting =>
    have hgen := hf.generation?_eq_some_iff.2 ⟨hg, he⟩
    have hheld := (hf.held g hg (he ▸ hf.slot_of_epoch_eq hg he)).loop
    have hmay : f₁.mayRun (.loop f₁.epoch) = true := by simp [mayRun, isAborted, hgen, hheld]
    have hbegin : f₁.step? depth (.run (.loop f₁.epoch) .first) =
        some ({ f₁ with current := some (.loop f₁.epoch) }.beginLoop f₁.epoch) := by
      unfold generation? at hgen
      simp [step?, runTask, hmay, generation?, hgen, stepLoop, hl, he]
    have hturn : idly f₁ (.run (.loop f₁.epoch) .first) := ⟨trivial, trivial, rfl⟩
    have hidle : Reaches depth idly f
        ({ f₁ with current := some (.loop f₁.epoch) }.beginLoop f₁.epoch) :=
      hr.step hturn hbegin
    refine ⟨_, hidle, ?_⟩
    obtain ⟨hf₂, -⟩ := (h.reaches hidle).reachable.silent
    exact attempts_of_connecting hf₂ hinit (List.mem_map.2 ⟨g, hg, if_pos he⟩) he rfl
  | _ => simp [hl, LoopPhase.rank] at hrank

/-- A feed can be made of settings that have been checked. -/
lemma exists_ofSettings (hv : settings.validate = .ok ()) (refreshable : Bool) :
    ∃ f, ofSettings settings refreshable = .ok f := by
  obtain ⟨⟨_, hparsed⟩, -⟩ := Settings.validateBy_eq_ok_iff.1 hv
  obtain ⟨url, hurl⟩ := Settings.exists_parsedUrl hparsed
  simp [ofSettings, hv, Request.ofSettings, hurl, bind, Except.bind, pure, Except.pure, Except.map]

/-- There are walks with any number of failed attempts. -/
lemma exists_walk (hv : settings.validate = .ok ()) (depth : Nat) (first : UInt32) :
    ∀ k, ∃ f, Walk depth settings first k f := by
  intro k
  induction k with
  | zero =>
    obtain ⟨f₀, h₀⟩ := exists_ofSettings hv false
    exact ⟨_, .started h₀ .refl rfl⟩
  | succ k ih =>
    obtain ⟨f, h⟩ := ih
    obtain ⟨f', hr, -, hfail, -⟩ := h.exists_attempts
    obtain ⟨f'', hs⟩ := Option.isSome_iff_exists.1 (hfail .unexpectedEof)
    have hfails : (Event.run (.loop f'.epoch) (.connectFailed .unexpectedEof)).Aside ∧
        (Event.run (.loop f'.epoch) (.connectFailed .unexpectedEof)).Futile := ⟨trivial, trivial⟩
    exact ⟨f'', (h.reaches hr).step hfails.1 hfails.2 hs⟩

/-! ### The walk along the schedule -/

/-- A feed that is started and left to itself walks along the schedule of its delays for as long as
its attempts to connect fail, whatever number it has been started with and however often guardians
wake up beside it.

Every round of a failed attempt publishes that the feed connects, that it has lost the connection
and that it is reconnecting. After each of them the feed sleeps for the delay of the schedule for
the number of the attempt that has failed, and no delay is shorter than the one before. From the
second attempt on, its number is the first one and the failures so far, held at the largest one.
There are walks of any length, and the next attempt can always be made.

When an attempt succeeds, the feed is connected and counts from nothing. It stays so until it loses
the connection, and then it sleeps for the first delay. -/
theorem backoff_walk {depth : Nat} {settings : Settings} {first : UInt32}
    (hv : settings.validate = .ok ()) :
    (∀ k, ∃ f, Walk depth settings first k f) ∧
    (∀ {i j : Nat} {a b : Duration}, i ≤ j →
      (Backoff.ofSettings settings).delayAt? (first.toNat + i) = some a →
      (Backoff.ofSettings settings).delayAt? (first.toNat + j) = some b → a ≤ b) ∧
    ∀ {k : Nat} {f : Feed}, Walk depth settings first k f →
      (∃ f', Reaches depth idly f f' ∧ f'.Attempts depth) ∧
      ((f.status = .initializing ∧ f.published = .initializing :: rounds k ∧
          (0 < k → f.retry.attempt.toNat =
            min (first.toNat + k) settings.maxRetries.toNat)) ∨
        (∃ i delay, k = i + 1 ∧ .reconnecting :: f.published = rounds k ∧
          (Backoff.ofSettings settings).delayAt? (first.toNat + i) = some delay ∧
          f.Retries depth i delay) ∨
        (f.status = .reconnecting ∧ f.published = rounds k)) ∧
      (∀ {e : Nat} {wake : Wake} {f' : Feed}, f.step? depth (.run (.loop e) wake) = some f' →
        f.status = .initializing ∧ e = f.epoch) ∧
      ∀ {e socket : Nat} {f' : Feed},
        f.step? depth (.run (.loop e) (.connected socket)) = some f' →
        f'.status = .connected ∧ f'.retry.attempt = 0 ∧
        f'.published = .connected :: .initializing :: rounds k ∧
        ∀ {g}, Reaches depth aside f' g →
          (g.status = .connected ∧ g.published = f'.published ∧ g.retry.attempt = 0) ∨
          (g.published = .lostConnection :: f'.published ∧
            g.Retries depth k ((Backoff.ofSettings settings).delayFor 0)) ∨
          ∃ rest, g.published = rest ++ .reconnecting :: .lostConnection :: f'.published := by
  obtain ⟨hne, hsorted⟩ := Settings.schedule_of_validateBy hv
  refine ⟨exists_walk hv depth first, fun hij ha hb =>
    Backoff.delayAt?_mono hsorted (Nat.add_le_add_left hij _) ha hb, fun {k f} h => ?_⟩
  obtain ⟨hwalk, hset⟩ := h.walking
  have hback : f.backoff = .ofSettings settings := by rw [backoff, hset]
  have hf := h.reachable.silent.1
  refine ⟨h.exists_attempts, ?_, hwalk.turn hf, fun {e socket f'} hs => ?_⟩
  · have hpub := hwalk.published
    have hlawful := hwalk.sound.2.2
    have hstatus : f.standing.status = f.status := rfl
    rw [hstatus] at hlawful
    cases hst : f.status with
    | initializing =>
      refine .inl ⟨rfl, by simpa [hst, ahead] using hpub, fun hk => ?_⟩
      rw [hwalk.retry hst, hback, Backoff.toNat_attemptAfter _ _ hk]
      rfl
    | connected => exact absurd hst hwalk.status
    | lostConnection =>
      obtain ⟨front, r, hn, -⟩ := hwalk.sound.waiting hst
      obtain ⟨hk, -, hret, -⟩ := hwalk.last hn
      refine .inr (.inl ⟨front.length, _, hk, by simpa [hst, ahead] using hpub, ?_,
        h.alone.retries hst hn⟩)
      rw [hret, hback, ← Backoff.delayAt?_attemptAfter]
      exact Backoff.delayAt?_toNat hne _
    | reconnecting => exact .inr (.inr ⟨rfl, by simpa [hst, ahead] using hpub⟩)
    | _ => simp [hst] at hlawful
  · obtain ⟨hinit, hstand⟩ := hwalk.connected hf hs
    have hpub : f.published = .initializing :: rounds k := by
      simpa [hinit, ahead] using hwalk.published
    have haside : (Event.run (.loop e) (.connected socket)).Aside := trivial
    obtain ⟨-, hf'⟩ := h.alone.advance haside hs
    simp only [standing, Standing.mk.injEq] at hstand
    obtain ⟨hst', -, -, -, hretry, hrec, -, hpub'⟩ := hstand
    have hzero : f'.retry.attempt = 0 := by rw [hretry]
    refine ⟨hst', hzero, by rw [hpub', hpub], fun {g} hr => ?_⟩
    obtain ⟨hg, hset', hcase⟩ := hf'.connected_of_reaches hst' hzero hr
    rcases hcase with ⟨hc, hp, hz, -⟩ | ⟨hl, hp, hn⟩ | hrest
    · exact .inl ⟨hc, hp, hz⟩
    · refine .inr (.inl ⟨hp, ?_⟩)
      have hback' : g.backoff = .ofSettings settings := by
        rw [backoff, hset', settings_of_step? hf hs, hset]
      have hlen : f'.reconnects.length = k := by rw [hrec, hwalk.length]
      have hnext := hg.retries hl hn
      rwa [hlen, hback'] at hnext
    · exact .inr (.inr hrest)

/-- The number of attempts to connect that fail with some events. -/
def failuresOf : List Event → Nat
  | [] => 0
  | event :: rest => event.failures + failuresOf rest

/-- A run of the standard settings that begins with a start and goes on with attempts that fail is a
walk. -/
lemma Walk.of_played? {events : List Event}
    (h : played? depth (.call (.start first) :: events) = some f)
    (ha : ∀ event ∈ events, event.Aside ∧ event.Futile) :
    Walk depth .standard first (failuresOf events) f := by
  obtain ⟨f₀, h₀, hs⟩ := Option.bind_eq_some_iff.1 h
  obtain ⟨f₁, h₁, hrest⟩ : ∃ f₁, f₀.step? depth (.call (.start first)) = some f₁ ∧
      f₁.run? depth events = some f := Option.bind_eq_some_iff.1 hs
  have hstart : Walk depth .standard first 0 f₁ := .started (eq_ok_of_toOption h₀) .refl h₁
  clear h h₀ hs h₁
  rw [← Nat.zero_add (failuresOf events)]
  generalize 0 = k at hstart
  induction events generalizing k f₁ with
  | nil =>
    obtain rfl := Option.some.inj hrest
    exact hstart
  | cons event rest ih =>
    obtain ⟨f₂, h₂, hrest⟩ := Option.bind_eq_some_iff.1 hrest
    obtain ⟨haside, hfut⟩ := ha event List.mem_cons_self
    have hnext := ih (fun e he => ha e (List.mem_cons_of_mem _ he)) f₂ hrest _
      (hstart.step haside hfut h₂)
    rwa [failuresOf, ← Nat.add_assoc]

/-- Three attempts fail, by an error, by taking too long, and by an error again; after the second
one the feed sleeps for a second. The fourth attempt succeeds, and after the loss of that connection
the feed sleeps for the first delay. -/
theorem backoff_walk_instances :
    ∃ f₂ f₃ f₄ f₅ : Feed, Walk 0 .standard 0 2 f₂ ∧ f₂.Retries 0 1 (.ofSeconds 1) ∧
      Walk 0 .standard 0 3 f₃ ∧ f₃.retry.attempt.toNat = 3 ∧
      f₃.published = .initializing :: rounds 3 ∧
      f₃.step? 0 (.run (.loop 7) (.connected 0)) = some f₄ ∧ f₄.status = .connected ∧
      f₄.step? 0 (.run (.loop 7) .ended) = some f₅ ∧ f₅.Retries 0 3 (.ofMillis 10) := by
  let twice : List Event :=
    [.run (.loop 1) .first, .run (.watch 1) .first, .run (.loop 1) (.connectFailed .unexpectedEof),
      .run (.reconnect 0) .first, .tick (.ofSeconds 1), .run (.reconnect 0) .elapsed,
      .run (.loop 3) .first, .tick (.ofSeconds 11), .run (.loop 3) .elapsed]
  let thrice : List Event := twice ++
    [.run (.reconnect 1) .first, .tick (.ofSeconds 12), .run (.reconnect 1) .elapsed,
      .run (.loop 5) .first, .run (.loop 5) (.connectFailed .unexpectedEof),
      .run (.reconnect 2) .first, .tick (.ofSeconds 22), .run (.reconnect 2) .elapsed,
      .run (.loop 7) .first]
  have hplay₂ : (played? 0 (.call (.start 0) :: twice)).map Feed.status = some .lostConnection := by
    decide +kernel
  have hplay₃ : ((played? 0 (.call (.start 0) :: thrice)).bind fun f =>
      (f.step? 0 (.run (.loop 7) (.connected 0))).bind fun f₄ =>
      (f₄.step? 0 (.run (.loop 7) .ended)).map fun f₅ =>
        ([f.status, f₅.status], [f₄.published.length, f₅.published.length])) =
      some ([.initializing, .lostConnection], [11, 12]) := by
    decide +kernel
  obtain ⟨f₂, hf₂, hlost⟩ := Option.map_eq_some_iff.1 hplay₂
  obtain ⟨f₃, hf₃, hplay₃⟩ := Option.bind_eq_some_iff.1 hplay₃
  obtain ⟨f₄, hf₄, hplay₃⟩ := Option.bind_eq_some_iff.1 hplay₃
  obtain ⟨f₅, hf₅, hview⟩ := Option.map_eq_some_iff.1 hplay₃
  simp only [Prod.mk.injEq, List.cons.injEq, and_true] at hview
  obtain ⟨⟨hinit, hend⟩, hlen₄, hlen₅⟩ := hview
  have h₂ : Walk 0 .standard 0 2 f₂ :=
    .of_played? hf₂ (by simp [twice, Event.Aside, Event.Futile])
  have h₃ : Walk 0 .standard 0 3 f₃ :=
    .of_played? hf₃ (by simp [twice, thrice, Event.Aside, Event.Futile])
  have hv : Settings.standard.validate = .ok () := eq_ok_of_toOption (by decide +kernel)
  obtain ⟨-, -, hwalk⟩ := @backoff_walk 0 .standard 0 hv
  obtain ⟨-, hround₂, -, -⟩ := hwalk h₂
  obtain ⟨-, hround₃, -, hconnected⟩ := hwalk h₃
  obtain ⟨hst, -, -, hlater⟩ := hconnected hf₄
  have hretries₂ : f₂.Retries 0 1 (.ofSeconds 1) := by
    rcases hround₂ with ⟨hs, -⟩ | ⟨i, delay, hi, -, hdelay, hretries⟩ | ⟨hs, -⟩
    · exact absurd (hlost.symm.trans hs) (by simp)
    · obtain rfl : i = 1 := by omega
      obtain rfl : Duration.ofSeconds 1 = delay := Option.some.inj hdelay
      exact hretries
    · exact absurd (hlost.symm.trans hs) (by simp)
  obtain ⟨hpub₃, hattempt⟩ : f₃.published = .initializing :: rounds 3 ∧
      f₃.retry.attempt.toNat = 3 := by
    rcases hround₃ with ⟨-, hpub, hret⟩ | ⟨i, delay, -, -, -, hs, -⟩ | ⟨hs, -⟩
    · exact ⟨hpub, hret (by simp)⟩
    · exact absurd (hinit.symm.trans hs) (by simp)
    · exact absurd (hinit.symm.trans hs) (by simp)
  have hloss : aside f₄ (.run (.loop 7) .ended) := trivial
  have hretries₅ : f₅.Retries 0 3 (.ofMillis 10) := by
    rcases hlater (Reaches.refl.step hloss hf₅) with ⟨hs, -⟩ | ⟨-, hretries⟩ | ⟨rest, hpub⟩
    · exact absurd (hend.symm.trans hs) (by simp)
    · exact hretries
    · rw [hpub, List.length_append, List.length_cons, List.length_cons, hlen₄] at hlen₅
      omega
  exact ⟨f₂, f₃, f₄, f₅, h₂, hretries₂, h₃, hattempt, hpub₃, hf₄, hst, hf₅, hretries₅⟩

end EventFeed.Feed
