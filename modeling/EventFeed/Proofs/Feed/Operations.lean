import EventFeed.Proofs.Feed.Telling

/-!
# What operations come to

Each operation is a few changes of the state with a publication among them, during which subscribers
may do whatever they like. Here every operation is opened once: which guards let it pass, what it
changes before subscribers are told and what afterwards. What an operation keeps is then read off
its cases, and nothing else opens an operation.
-/

namespace EventFeed

/-- The tasks of a generation have been told to end. -/
def Generation.abort (g : Generation) : Generation :=
  { g with loopAborted := true, watchAborted := true, signalled := true }

namespace Feed

/-! ### Halting -/

/-- Aborting the tasks that are held empties the slot. -/
lemma abortSlot_eq (f : Feed) :
    f.abortSlot =
      { f with
        slot := none
        generations := f.generations.map fun g =>
          if f.slot = some g.epoch then g.abort else g } := by
  unfold abortSlot
  split
  · next h => cases f; simp_all
  · next e h => simp [changeGeneration, Generation.abort, h, eq_comm]

/-- Halting empties the slot, ends the epoch and forgets the session. -/
lemma haltTasks_eq (f : Feed) :
    f.haltTasks =
      { f with
        slot := none
        epoch := f.epoch + 1
        installed := none
        generations := f.generations.map fun g =>
          if f.slot = some g.epoch then g.abort else g } := by
  rw [haltTasks, abortSlot_eq]

/-- Aborting the scheduled reconnect changes no other field. -/
lemma abortPending_eq (f : Feed) :
    f.abortPending = { f with pending := none, reconnects := f.abortPending.reconnects } := by
  unfold abortPending
  split
  · next h => cases f; simp_all
  · rfl

/-- Aborting the scheduled reconnect changes at most that one's flag. -/
lemma getElem?_reconnects_abortPending (f : Feed) (n : Nat) :
    f.abortPending.reconnects[n]? =
      (f.reconnects[n]?).map fun r =>
        if f.pending = some n then { r with aborted := true } else r := by
  unfold abortPending
  split
  · next h => simp [h]
  · next m h => simp [h, List.getElem?_modify]

/-! ### Going on to a status -/

/-- The feed goes on to a status, unless it is there already, and subscribers are told. -/
def Entered (respond : Respond) (s : ConnectionState) (f g : Feed) : Prop :=
  (f.status = s ∧ g = f) ∨ (f.status ≠ s ∧ Told respond s f g)

/-- Setting the status goes on to it. -/
lemma entered_setStatus (respond : Respond) (s : ConnectionState) (f : Feed) :
    Entered respond s f (f.setStatus respond s) :=
  setStatus_cases respond s f

/-! ### Starting -/

/-- Begin a generation in place of the one that is held. -/
def generate (retries : UInt32) (f : Feed) : Feed :=
  { f.abortSlot with
    epoch := f.epoch + 1
    retry := { attempt := retries }
    generations := f.abortSlot.generations ++ [{ epoch := f.epoch + 1 }]
    slot := some (f.epoch + 1) }

/-- A start is refused, or subscribers are told and then a generation begins, unless they moved the
feed on. -/
lemma startWhere_cases (respond : Respond) (allowed : Feed → Bool) (retries : UInt32) (f : Feed) :
    ((f.status = .initializing ∨ allowed f = false) ∧
        startWhere respond allowed retries f = (false, f)) ∨
      (f.status ≠ .initializing ∧ allowed f = true ∧ ∃ g, Told respond .initializing f g ∧
        ((g.status ≠ .initializing ∧ startWhere respond allowed retries f = (false, g)) ∨
          (g.status = .initializing ∧
            startWhere respond allowed retries f = (true, g.generate retries)))) := by
  unfold startWhere
  rcases transition_cases respond allowed .initializing f with ⟨h, he⟩ | ⟨hs, ha, g, he, hg⟩
  · exact .inl ⟨h, by rw [he]; rfl⟩
  · refine .inr ⟨hs, ha, g, hg, ?_⟩
    rw [he]
    have hepoch : g.abortSlot.epoch = g.epoch := by rw [abortSlot_eq]
    by_cases hi : g.status = .initializing
    · exact .inr ⟨hi, by simp [hi, generate, hepoch]⟩
    · exact .inl ⟨hi, by simp [hi]⟩

/-- What a start comes to, whoever asks for it. -/
inductive Started (respond : Respond) (retries : UInt32) (f : Feed) : Feed → Prop
  | refused : Started respond retries f f
  | overtaken {g : Feed} (hs : f.status ≠ .initializing) (ht : Told respond .initializing f g)
      (hg : g.status ≠ .initializing) : Started respond retries f g
  | begun {g : Feed} (hs : f.status ≠ .initializing) (ht : Told respond .initializing f g)
      (hg : g.status = .initializing) : Started respond retries f (g.generate retries)

/-- A start with any guard comes to one of the three. -/
lemma started_startWhere (respond : Respond) (allowed : Feed → Bool) (retries : UInt32)
    (f : Feed) : Started respond retries f (startWhere respond allowed retries f).2 := by
  rcases startWhere_cases respond allowed retries f with
    ⟨-, he⟩ | ⟨hs, -, g, ht, ⟨hg, he⟩ | ⟨hg, he⟩⟩
  · rw [he]; exact .refused
  · rw [he]; exact .overtaken hs ht hg
  · rw [he]; exact .begun hs ht hg

/-- A start that the caller asks for. -/
lemma started_start (respond : Respond) (retries : UInt32) (f : Feed) :
    Started respond retries f (f.start respond retries) :=
  started_startWhere respond _ retries f

/-- A start at the end of a reconnect delay does nothing unless the feed is reconnecting. -/
lemma restart_eq_self {respond : Respond} {retries : UInt32} {f : Feed}
    (h : f.status ≠ .reconnecting) : restart respond retries f = f := by
  unfold restart
  rcases startWhere_cases respond (fun f => f.status = .reconnecting) retries f with
    ⟨-, he⟩ | ⟨-, ha, -⟩
  · rw [he]
  · exact absurd (by simpa using ha) h

/-- A start at the end of a reconnect delay comes to the same. -/
lemma started_restart (respond : Respond) (retries : UInt32) (f : Feed) :
    Started respond retries f (restart respond retries f) :=
  started_startWhere respond _ retries f

/-! ### Reconnecting -/

/-- The first part of a reconnect halts what runs. Unless it is a scheduled one in a halted feed,
the feed goes on to say so, and the reconnect falls asleep. -/
lemma beginReconnect_cases (respond : Respond) (n : Nat) (r : Reconnect) (f : Feed) :
    (r.scheduled = true ∧ f.status.isHalted = true ∧
        f.beginReconnect respond n r = f.haltTasks.setReconnect n .finished) ∨
      ((r.scheduled = true → f.status.isHalted = false) ∧
        ∃ g, Entered respond .reconnecting f.haltTasks g ∧
          f.beginReconnect respond n r = g.sleepReconnect n r) := by
  have hstatus : f.haltTasks.status = f.status := by rw [haltTasks_eq]
  unfold beginReconnect
  by_cases hr : r.scheduled = true
  · dsimp only
    rw [if_pos hr]
    rcases transition_cases respond (fun f => !f.status.isHalted) .reconnecting f.haltTasks with
      ⟨h, he⟩ | ⟨hs, ha, g, he, hg⟩
    · rw [he, hstatus]
      by_cases hs : f.status = .reconnecting
      · refine .inr ⟨fun _ => by rw [hs]; rfl, _, .inl ⟨by rw [hstatus, hs], rfl⟩, ?_⟩
        simp [hs]
      · have hh : f.status.isHalted = true := by simpa [hstatus, hs] using h
        exact .inl ⟨hr, hh, by simp [hs]⟩
    · rw [he]
      refine .inr ⟨fun _ => by simpa [hstatus] using ha, g, .inr ⟨hs, hg⟩, ?_⟩
      simp
  · dsimp only
    rw [if_neg hr]
    exact .inr ⟨fun h => absurd h hr, _, entered_setStatus _ _ _, rfl⟩

/-- A reconnect falls asleep until its delay has passed, in the epoch that it finds. -/
lemma sleepReconnect_eq (n : Nat) (r : Reconnect) (f : Feed) :
    f.sleepReconnect n r =
      (f.log .info "Reconnecting event stream"
        [("delay_ms", toString (r.delay.getD (f.backoff.delayFor r.retries)).millisCounter.toNat),
          ("attempt", toString r.retries.toNat)]).setReconnect n
        (.asleep (f.after (r.delay.getD (f.backoff.delayFor r.retries))) f.epoch) := rfl

/-- The second part of a reconnect ends it, and starts again if the feed is still reconnecting in
the epoch that the reconnect remembers. -/
lemma endReconnect_cases (respond : Respond) (n epoch : Nat) (r : Reconnect) (f : Feed) :
    ((f.epoch ≠ epoch ∨ f.status ≠ .reconnecting) ∧
        f.endReconnect respond n epoch r = f.setReconnect n .finished) ∨
      (f.epoch = epoch ∧ f.status = .reconnecting ∧
        f.endReconnect respond n epoch r =
          restart respond (f.backoff.nextAttempt r.retries) (f.setReconnect n .finished)) := by
  unfold endReconnect
  by_cases he : f.epoch = epoch
  · by_cases hs : f.status = .reconnecting
    · exact .inr ⟨he, hs, if_pos he⟩
    · have hs' : (f.setReconnect n .finished).status ≠ .reconnecting := hs
      exact .inl ⟨.inr hs, (if_pos he).trans (restart_eq_self hs')⟩
  · exact .inl ⟨.inl he, if_neg he⟩

/-! ### Losing a connection, opening a session -/

/-- A lost connection is reported in vain, or the feed says so and a reconnect is scheduled. -/
lemma connectionLost_cases (respond : Respond) (epoch : Nat) (retries : UInt32) (f : Feed) :
    ((f.status = .lostConnection ∨ f.isLive epoch = false) ∧
        f.connectionLost respond epoch retries = f) ∨
      (f.status ≠ .lostConnection ∧ f.isLive epoch = true ∧
        ∃ g, Told respond .lostConnection f g ∧
          f.connectionLost respond epoch retries = g.scheduleReconnect epoch retries) := by
  unfold connectionLost
  rcases transition_cases respond (isLive epoch) .lostConnection f with
    ⟨h, he⟩ | ⟨hs, ha, g, he, hg⟩
  · exact .inl ⟨h, by rw [he]; rfl⟩
  · exact .inr ⟨hs, ha, g, hg, by rw [he]; rfl⟩

/-- A reconnect is scheduled in the current epoch at most, and once. -/
lemma scheduleReconnect_cases (epoch : Nat) (retries : UInt32) (f : Feed) :
    ((f.epoch ≠ epoch ∨ epoch ≤ f.claim) ∧ f.scheduleReconnect epoch retries = f) ∨
      (f.epoch = epoch ∧ f.claim < epoch ∧
        f.scheduleReconnect epoch retries =
          { f with
            claim := epoch
            pending := some f.reconnects.length
            reconnects := f.reconnects ++ [{ scheduled := true, delay := none, retries }] }) := by
  unfold scheduleReconnect
  split
  · next h => exact .inl ⟨by simpa using h, rfl⟩
  · next h =>
    obtain ⟨he, hc⟩ : f.epoch = epoch ∧ f.claim < epoch := by simpa using h
    exact .inr ⟨he, hc, rfl⟩

/-- The session of an opened socket is installed, with the retry counter reset. -/
def install (epoch : Nat) (f : Feed) : Feed :=
  { f with installed := some epoch, retry := f.retry.reset }

/-- The session is installed first, and forgotten again if the feed may not say that it is
connected. -/
lemma sessionOpened_eq (respond : Respond) (epoch : Nat) (f : Feed) :
    sessionOpened respond epoch f =
      if f.epoch ≠ epoch then (false, f)
      else
        let opened := transition respond (isLive epoch) .connected (f.install epoch)
        if !opened.1 && opened.2.installed = some epoch then
          (false, { opened.2 with installed := none })
        else opened := rfl

/-- A session is refused and forgotten again, or the feed says that it is connected. -/
lemma sessionOpened_cases (respond : Respond) (epoch : Nat) (f : Feed) :
    (f.epoch ≠ epoch ∧ sessionOpened respond epoch f = (false, f)) ∨
      (f.epoch = epoch ∧ (f.status = .connected ∨ f.status.isHalted = true) ∧
        sessionOpened respond epoch f = (false, { f.install epoch with installed := none })) ∨
      (f.epoch = epoch ∧ f.status ≠ .connected ∧ f.status.isHalted = false ∧
        ∃ g, Told respond .connected (f.install epoch) g ∧
          sessionOpened respond epoch f = (true, g)) := by
  unfold sessionOpened
  split
  · next h => exact .inl ⟨h, rfl⟩
  · next h =>
    have he : f.epoch = epoch := by simpa using h
    refine .inr ?_
    rcases transition_cases respond (isLive epoch) .connected (f.install epoch) with
      ⟨hc, ht⟩ | ⟨hs, ha, g, ht, hg⟩
    · refine .inl ⟨he, ?_, ?_⟩
      · simpa [install, isLive, he] using hc
      · unfold install at ht ⊢
        simp [ht]
    · refine .inr ⟨he, hs, ?_, g, hg, ?_⟩
      · simpa [install, isLive, he] using ha
      · unfold install at ht
        simp [ht]

/-! ### Disconnecting -/

/-- The generation of an epoch is left to end by itself: its guardian is aborted, its read loop is
asked to shut down. -/
def letGo (epoch : Nat) (f : Feed) : Feed :=
  f.changeGeneration epoch fun g => { g with watchAborted := true, signalled := true }

/-- The first part of a disconnect says so, and then waits for the read loop that was held, or is at
its end when there was none. -/
lemma beginDisconnect_cases (respond : Respond) (n : Nat) (f : Feed) :
    ∃ g, Entered respond .disconnecting f g ∧
      ((g.slot = none ∧
          f.beginDisconnect respond n =
            { g.abortPending with slot := none, epoch := g.epoch + 1 }.endDisconnect respond n) ∨
        ∃ e, g.slot = some e ∧
          f.beginDisconnect respond n =
            ({ g.abortPending with slot := none, epoch := g.epoch + 1 }.letGo e).setDisconnect n
              (.joining e (g.after g.settings.shutdownTimeout))) := by
  refine ⟨_, entered_setStatus respond .disconnecting f, ?_⟩
  generalize hg : f.setStatus respond .disconnecting = g
  have hslot : g.abortPending.slot = g.slot := by rw [abortPending_eq]
  have hepoch : g.abortPending.epoch = g.epoch := by rw [abortPending_eq]
  unfold beginDisconnect
  rw [hg]
  dsimp only
  rw [hslot, hepoch]
  cases hs : g.slot with
  | none => exact .inl ⟨rfl, rfl⟩
  | some e =>
    refine .inr ⟨e, rfl, ?_⟩
    rw [abortPending_eq]
    rfl

/-- The last part of a disconnect forgets the session and goes on to say so, whatever has happened
since the first part. -/
lemma endDisconnect_cases (respond : Respond) (n : Nat) (f : Feed) :
    ∃ g, Entered respond .disconnected { f with installed := none } g ∧
      f.endDisconnect respond n = g.setDisconnect n .finished :=
  ⟨_, entered_setStatus respond _ _, rfl⟩

end Feed

end EventFeed
