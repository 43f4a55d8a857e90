import EventFeed.Proofs.Feed.Halted

/-!
# A stopped feed stays stopped

After a stop no generation is held, and if no disconnect waits for a read loop then every read loop
is aborted or at its end. A read loop that has begun may run on until it waits, but it does not
connect again. So nothing happens to the status, and no connection is begun, until somebody asks for
something other than a stop.

A stop may also be asked for by a subscriber, in the middle of an operation or of a step of a task.
What is left of that step then finds the feed stopped and does nothing more about the status.
-/

namespace EventFeed.Feed

variable {may : Conduct} {respond : Respond} {f f' g : Feed}

/-! ### A stopped feed -/

/-- The feed has been stopped, and no disconnect waits for a read loop. -/
structure Stopped (f : Feed) : Prop where
  status : f.status = .stopUpdates
  slot : f.slot = none
  joins : ∀ epoch, ¬ f.Joined epoch

/-- What can be seen of a stopped feed has not changed. -/
structure Rests (f g : Feed) : Prop where
  status : g.status = f.status
  slot : g.slot = f.slot
  connects : g.connects = f.connects
  disconnects : g.disconnects = f.disconnects

/-- A stopped feed that rests stays stopped. -/
lemma Stopped.rests (h : Stopped f) (hg : Rests f g) : Stopped g ∧ g.connects = f.connects := by
  refine ⟨⟨hg.status.trans h.status, hg.slot.trans h.slot, fun epoch => ?_⟩, hg.connects⟩
  unfold Joined
  rw [hg.disconnects]
  exact h.joins epoch

/-- A stop leaves no disconnect waiting where none has been. -/
lemma Stops.stopped (hg : Stops f g) (h : ∀ epoch, ¬ f.Joined epoch) : Stopped g := by
  refine ⟨hg.status, hg.slot, fun epoch => ?_⟩
  unfold Joined
  rw [hg.disconnects]
  exact h epoch

/-- Work of read loops leaves a feed at rest. -/
lemma Busy.rests (hb : f.Busy g) : Rests f g := by
  obtain ⟨_, _, _, _, _, rfl⟩ := hb.rest
  exact ⟨rfl, rfl, hb.connects, rfl⟩

/-- Subscribers that stop a stopped feed at most leave it at rest. -/
lemma StopsAtMost.rests (hg : StopsAtMost f g) (h : Stopped f) : Rests f g := by
  rcases hg with he | hg
  · exact
      { status := eq_of_engine he Feed.status fun _ => rfl
        slot := eq_of_engine he Feed.slot fun _ => rfl
        connects := eq_of_engine he Feed.connects fun k => connects_engine k
        disconnects := eq_of_engine he Feed.disconnects fun _ => rfl }
  · exact ⟨hg.status.trans h.status.symm, hg.slot.trans h.slot.symm, hg.connects, hg.disconnects⟩

lemma Rests.trans {h : Feed} (hg : Rests f g) (hh : Rests g h) : Rests f h :=
  ⟨hh.status.trans hg.status, hh.slot.trans hg.slot, hh.connects.trans hg.connects,
    hh.disconnects.trans hg.disconnects⟩

/-- Whose turn it is leaves a feed at rest. -/
lemma rests_turn (f : Feed) (task : Task) : Rests f { f with current := some task } :=
  ⟨rfl, rfl, rfl, rfl⟩

/-- A guardian leaves a halted feed at rest. -/
lemma WatchRun.rests {epoch : Nat} (hs : WatchRun respond epoch f f')
    (hh : f.status.isHalted = true) : Rests f f' := by
  cases hs with
  | ended => exact ⟨rfl, rfl, rfl, rfl⟩
  | slept => exact ⟨rfl, rfl, rfl, rfl⟩
  | reported =>
    have hw : (f.setWatch epoch .finished).status.isHalted = true := hh
    rw [connectionLost_of_halted hw]
    exact ⟨rfl, rfl, rfl, rfl⟩

/-- In a stopped feed no read loop runs but one that has begun and has not waited since. -/
lemma Stopped.loop_runs (h : Stopped f) (hf : f.WellFormed may) {k : Generation}
    (hk : k ∈ f.generations) (hm : f.mayRun (.loop k.epoch) = true) (hl : k.loop ≠ .finished) :
    f.current = some (.loop k.epoch) ∧ k.loop ≠ .waiting := by
  have hab : k.loopAborted = true := by
    rcases (hf.released k hk (by simp [h.slot])).loop with hab | hfin | hj
    · exact hab
    · exact absurd hfin hl
    · exact absurd hj (h.joins k.epoch)
  have hcur : f.current = some (.loop k.epoch) := by
    have hgen : f.generation? k.epoch = some k := hf.generation?_eq_some_iff.2 ⟨hk, rfl⟩
    simpa [mayRun, isAborted, hgen, hab] using hm
  obtain ⟨k', hk', he, hw⟩ := hf.current _ hcur
  rw [hf.eq_of_epoch_eq hk' hk he] at hw
  exact ⟨hcur, hw⟩

/-- A conduct allows a stop at most, whatever a subscriber is told. -/
abbrev Mild (may : Conduct) : Prop := ∀ event operation, may (.event event) operation →
  operation = .stop

section Stopped

variable (hr : Respects (WellFormed may) (Yielding may) respond)

include hr

/-- Subscribers to events that stop the feed at most leave a stopped feed at rest. -/
lemma Stopped.rests_publishEvent (h : Stopped f) (hf : f.WellFormed may) (hmild : Mild may)
    (event : RoutedEvent) : Rests f (publishEvent respond event f).2 := by
  have hn : (f.note (.eventPublished event)).WellFormed may := hf.note _
  obtain ⟨-, hy⟩ := (framed_yielding may).publishEvent hr hn
  have hnote : Rests f (f.note (.eventPublished event)) :=
    ⟨rfl, rfl, by simp [connects, note], rfl⟩
  exact hnote.trans ((hy (hmild event)).rests (h.rests hnote).1)

/-- A step of a read loop that has begun leaves a stopped feed at rest. -/
lemma LoopRun.rests {k : Generation} (hs : LoopRun respond k f f') (h : Stopped f)
    (hf : f.WellFormed may) (hmild : Mild may) (hw : k.loop ≠ .waiting) : Rests f f' := by
  have hh : f.status.isHalted = true := by rw [h.status]; rfl
  cases hs with
  | began hb => exact absurd hb hw
  | ended => exact (busy_finish _).rests
  | worked _ _ hb => exact hb.rests
  | opened _ socket =>
    obtain ⟨j, hb, -, hj⟩ := loopConnected_cases respond k.epoch socket f
    have hclose : ∀ {i : Feed}, Rests i (i.beginClose k.epoch socket) := fun {i} =>
      ⟨rfl, rfl, by simp [connects, beginClose, setLoop, changeGeneration, note], rfl⟩
    rcases hj with ⟨-, he⟩ | ⟨-, -, he⟩ | ⟨-, -, hn, -⟩
    · rw [he]
      exact hb.rests.trans hclose
    · rw [he]
      have hi : Rests j { j.install k.epoch with installed := none } := ⟨rfl, rfl, rfl, rfl⟩
      exact (hb.rests.trans hi).trans hclose
    · rw [hb.still.status, hh] at hn
      exact absurd hn (by simp)
  | failed _ _ error =>
    obtain ⟨j, hb, -, he⟩ := failLoop_eq respond k.epoch error f
    rw [connectionLost_of_halted (by rw [hb.still.status, hh])] at he
    exact he ▸ hb.rests
  | @published _ _ _ j hl hb _ event =>
    have hj := (h.rests hb.rests).1.rests_publishEvent hr (hf.busy hb) hmild event
    exact (hb.rests.trans hj).trans ⟨rfl, rfl, rfl, rfl⟩

/-- A call that asks for nothing but a stop leaves a stopped feed stopped. -/
lemma Stopped.doCall (h : Stopped f) (hf : f.WellFormed may)
    (hmay : ∀ status operation, may (.status status) operation → operation = .stop) {call : Call}
    (ho : ∀ operation, f.operation? (.call call) = some operation → operation = .stop)
    (hE : Mild may ∨ ∀ event, call ≠ .publishEvent event) :
    Stopped (f.doCall respond call) ∧ (f.doCall respond call).connects = f.connects := by
  cases call with
  | start retries => exact absurd (ho .start rfl) (by simp)
  | stop =>
    have hs := stops_stop hr hmay hf
    exact ⟨hs.stopped h.joins, hs.connects⟩
  | reconnect delay retries => exact h.rests ⟨rfl, rfl, rfl, rfl⟩
  | disconnect =>
    refine ⟨⟨h.status, h.slot, ?_⟩, rfl⟩
    rintro epoch ⟨n, d, t, hd, hp⟩
    rcases List.mem_append.1 (List.mem_of_getElem? hd) with hd | hd
    · obtain ⟨m, hm⟩ := List.mem_iff_getElem?.1 hd
      exact h.joins epoch ⟨m, d, t, hm, hp⟩
    · rw [List.mem_singleton.1 hd] at hp
      exact absurd hp (by simp)
  | subscribe target name handler =>
    have hs : StopsAtMost f (f.subscribe target name handler) :=
      .inl (engine_subscribe f target name handler)
    exact h.rests (hs.rests h)
  | unsubscribe handle =>
    have hs : StopsAtMost f (f.unsubscribe handle).2 := .inl (engine_unsubscribe f handle)
    exact h.rests (hs.rests h)
  | publishStatus status =>
    have hn : (f.note (.statusPublished status)).WellFormed may := hf.note _
    obtain ⟨-, hy⟩ := (framed_yielding may).publishStatus hr hn
    have hnote : Rests f (f.note (.statusPublished status)) :=
      ⟨rfl, rfl, by simp [connects, note], rfl⟩
    exact h.rests (hnote.trans ((hy (hmay status)).rests (h.rests hnote).1))
  | publishEvent event =>
    have hmild := hE.resolve_right fun hne => hne event rfl
    exact h.rests (h.rests_publishEvent hr hf hmild event)
  | release =>
    have hs : Stops f (f.abortPending.haltTasks) := stops_halt h.status rfl rfl
    exact ⟨hs.stopped h.joins, hs.connects⟩

/-- Whatever happens, a stopped feed stays stopped and begins no connection, if nothing but a stop
is asked for. -/
lemma Stopped.stepped {event : Event} (hs : Stepped respond f event f') (h : Stopped f)
    (hf : f.WellFormed may)
    (hmay : ∀ status operation, may (.status status) operation → operation = .stop)
    (ho : ∀ operation, f.operation? event = some operation → operation = .stop)
    (hE : Mild may ∨
      (∀ e, f.current ≠ some (.loop e)) ∧ ∀ event', event ≠ .call (.publishEvent event')) :
    Stopped f' ∧ f'.connects = f.connects := by
  have hh : f.status.isHalted = true := by rw [h.status]; rfl
  cases hs with
  | called call =>
    have hn : Stopped { f with current := none } := ⟨h.status, h.slot, h.joins⟩
    have ho' : ∀ operation, { f with current := none }.operation? (.call call) = some operation →
        operation = .stop := by
      cases call <;> exact ho
    exact hn.doCall hr hf.noTurn hmay ho' (hE.imp_right fun hne event he => hne.2 event (he ▸ rfl))
  | @looped k wake _ hk hm hrun =>
    obtain ⟨hcur, hw⟩ := h.loop_runs hf hk hm hrun.ne_finished
    have hmild := hE.resolve_right fun hne => hne.1 _ hcur
    have hn : Stopped { f with current := some (.loop k.epoch) } := ⟨h.status, h.slot, h.joins⟩
    exact hn.rests (hrun.rests hr hn (hf.setCurrentLoop hk hw) hmild hw)
  | watched _ _ hrun => exact h.rests ((rests_turn f _).trans (hrun.rests hh))
  | @reconnectBegan n r hr' _ _ =>
    have hsch : r.scheduled = true := by
      by_contra hne
      exact absurd (ho .reconnect (by simp [operation?, hr', hne])) (by simp)
    rcases beginReconnect_cases respond n r { f with current := some (.reconnect n) } with
      ⟨-, -, he⟩ | ⟨hno, -⟩
    · rw [he, haltTasks_eq]
      exact h.rests ⟨rfl, h.slot.symm, rfl, rfl⟩
    · have hno : f.status.isHalted = false := hno hsch
      rw [hh] at hno
      exact absurd hno (by simp)
  | @reconnectEnded n r deadline epoch =>
    rcases endReconnect_cases respond n epoch r { f with current := some (.reconnect n) } with
      ⟨-, he⟩ | ⟨-, hs, -⟩
    · rw [he]
      exact h.rests ⟨rfl, rfl, rfl, rfl⟩
    · exact absurd hs (ne_reconnecting_of_halted hh)
  | disconnectBegan => exact absurd (ho .disconnect rfl) (by simp)
  | disconnectJoined hd hp => exact absurd ⟨_, _, _, hd, hp⟩ (h.joins _)
  | disconnectAbandoned hd hp => exact absurd ⟨_, _, _, hd, hp⟩ (h.joins _)
  | refreshed hb => exact h.rests ((rests_turn f _).trans hb.rests)
  | ticked => exact h.rests ⟨rfl, rfl, rfl, rfl⟩
  | reconnectGivenUp => exact h.rests ⟨rfl, rfl, rfl, rfl⟩
  | disconnectGivenUp =>
    refine ⟨⟨h.status, h.slot, ?_⟩, rfl⟩
    rintro epoch ⟨n, d, t, hd, hp⟩
    rw [List.getElem?_modify] at hd
    obtain ⟨d₀, hd₀, rfl⟩ := Option.map_eq_some_iff.1 hd
    exact h.joins epoch ⟨n, d₀, t, hd₀, by split at hp <;> exact hp⟩

end Stopped

/-- A whole run leaves a stopped feed stopped and begins no connection, if nothing but a stop is
asked for. Subscribers to events do what they like if none of them is told of an event, which is so
when no read loop ran last and the caller publishes none. -/
lemma Stopped.reaches {depth : Nat} {allowed : Feed → Event → Prop} (h : Stopped f)
    (hf : f.WellFormed may)
    (hmay : ∀ status operation, may (.status status) operation → operation = .stop)
    (hcur : Mild may ∨ ∀ e, f.current ≠ some (.loop e))
    (ha : ∀ k event, allowed k event → event.Keeps may ∧
      (∀ operation, k.operation? event = some operation → operation = .stop) ∧
      (Mild may ∨ ∀ event', event ≠ .call (.publishEvent event')))
    (hr : Reaches depth allowed f g) : g.status = .stopUpdates ∧ g.connects = f.connects := by
  have hresp := ((conducted_yielding hmay).respond depth).and
  let Inv : Feed → Prop := fun k =>
    Stopped k ∧ k.connects = f.connects ∧ (Mild may ∨ ∀ e, k.current ≠ some (.loop e))
  have hinv : g.WellFormed may ∧ Inv g := by
    refine hr.invariant Inv hf ⟨h, rfl, hcur⟩ (fun k event hk => (ha k event hk).1) ?_
    rintro k event k' hk hallow ⟨hst, hcon, hc⟩ hstep
    obtain ⟨-, ho, hpub⟩ := ha k event hallow
    have hs := stepped_of_step? hk hstep
    have hE : Mild may ∨
        (∀ e, k.current ≠ some (.loop e)) ∧ ∀ event', event ≠ .call (.publishEvent event') := by
      rcases hc with hc | hc
      · exact .inl hc
      · exact hpub.imp_right fun hne => ⟨hc, hne⟩
    obtain ⟨hst', hcon'⟩ := hst.stepped hresp.2 hs hk hmay ho hE
    refine ⟨hst', hcon'.trans hcon, hE.imp_right fun hne e he => ?_⟩
    -- A read loop whose turn it is has run, and none can.
    rw [hs.current_eq hresp.1 hk] at he
    cases hs with
    | @looped j _ _ hj hm hrun =>
      exact hne.1 _ (hst.loop_runs hk hj hm hrun.ne_finished).1
    | _ => exact absurd he (by simp [Event.task?])
  exact ⟨hinv.2.1.status, hinv.2.2.1⟩

/-! ### A stop in the middle of a step -/

/-- The feed has been stopped for good, or no change led to its being stopped. -/
def Lasts (f g : Feed) : Prop :=
  Stops f g ∨ g.changes = f.changes ∨ ∃ s, s ≠ .stopUpdates ∧ g.changes = s :: f.changes

/-- If a change led to its being stopped, then the feed has been stopped for good. -/
lemma Lasts.stops (h : Lasts f g) {news : List ConnectionState}
    (hn : g.changes = news ++ f.changes) (hm : .stopUpdates ∈ news) : Stops f g := by
  rcases h with h | h | ⟨s, hs, h⟩
  · exact h
  · obtain rfl : news = [] := by simpa [h] using hn
    exact absurd hm List.not_mem_nil
  · obtain rfl : [s] = news := List.append_cancel_right (h.symm.trans hn)
    exact absurd (List.mem_singleton.1 hm).symm hs

/-- What follows on a stop at rest, without a change, does not undo it. -/
lemma Lasts.rests {h : Feed} (hg : Lasts f g) (hh : Rests g h) (hc : h.changes = g.changes) :
    Lasts f h := by
  rcases hg with hg | hg
  · exact .inl ⟨hh.status.trans hg.status, hh.slot.trans hg.slot, hh.connects.trans hg.connects,
      hh.disconnects.trans hg.disconnects⟩
  · exact .inr (by rwa [hc])

/-- What happens to a feed in the same place can be said of it from there on. -/
lemma Lasts.of_rests {k : Feed} (hk : Lasts k g) (hr : Rests f k) (hc : k.changes = f.changes) :
    Lasts f g := by
  rcases hk with hg | hg
  · exact .inl ⟨hg.status, hg.slot, hg.connects.trans hr.connects,
      hg.disconnects.trans hr.disconnects⟩
  · exact .inr (by rwa [hc] at hg)

/-- Subscribers that stop the feed at most stop it for good if they do. -/
lemma StopsAtMost.lasts (h : StopsAtMost f g) : Lasts f g := by
  rcases h with he | hs
  · exact .inr (.inl (eq_of_engine he Feed.changes fun k => changes_engine k))
  · exact .inl hs

section Lasts

variable (hr : Respects (WellFormed may) (Yielding may) respond)
variable (hmay : ∀ status operation, may (.status status) operation → operation = .stop)

include hr hmay

/-- After an announcement the feed is as it was announced, or it has been stopped. -/
lemma Told.stops_or {s : ConnectionState} (ht : Told respond s f g) (hf : f.WellFormed may) :
    g.engine = (f.announce s).engine ∨ Stops f g := by
  obtain ⟨-, hy⟩ := (framed_yielding may).told hr ht (hf.announce s)
  have hcon : (f.announce s).connects = f.connects := by simp [announce, connects, note]
  rcases hy (hmay s) with he | hs
  · exact .inl he
  · exact .inr ⟨hs.status, hs.slot, hs.connects.trans hcon, hs.disconnects⟩

/-- An announcement of anything but a stop is the only change, or the feed is stopped for good. -/
lemma Told.lasts {s : ConnectionState} (ht : Told respond s f g) (hf : f.WellFormed may)
    (hs : s ≠ .stopUpdates) : Lasts f g := by
  rcases ht.stops_or hr hmay hf with he | hst
  · refine .inr (.inr ⟨s, hs, ?_⟩)
    rw [eq_of_engine he Feed.changes fun k => changes_engine k]
    rfl
  · exact .inl hst

/-- A start that a stop has overtaken begins nothing. -/
lemma Started.lasts {retries : UInt32} (hs : Started respond retries f g) (hf : f.WellFormed may) :
    Lasts f g := by
  cases hs with
  | refused => exact .inr (.inl rfl)
  | overtaken _ ht _ => exact ht.lasts hr hmay hf (by simp)
  | @begun k _ ht hk =>
    rcases ht.stops_or hr hmay hf with he | hst
    · refine .inr (.inr ⟨.initializing, by simp, ?_⟩)
      have hc : k.changes = (f.announce .initializing).changes :=
        eq_of_engine he Feed.changes fun k => changes_engine k
      unfold generate
      rw [abortSlot_eq]
      exact hc
    · rw [hst.status] at hk
      exact absurd hk (by simp)

/-- The report of a lost connection that a stop has overtaken leaves the feed stopped. -/
lemma lasts_connectionLost (hf : f.WellFormed may) (epoch : Nat) (retries : UInt32) :
    Lasts f (f.connectionLost respond epoch retries) := by
  rcases connectionLost_cases respond epoch retries f with ⟨-, he⟩ | ⟨-, -, k, ht, he⟩
  · rw [he]
    exact .inr (.inl rfl)
  · rw [he]
    have hk := ht.lasts hr hmay hf (by simp)
    rcases scheduleReconnect_cases epoch retries k with ⟨-, hs⟩ | ⟨-, -, hs⟩
    · rwa [hs]
    · rw [hs]
      exact hk.rests ⟨rfl, rfl, rfl, rfl⟩ rfl

/-- The first part of a reconnect that a stop has overtaken leaves the feed stopped. -/
lemma lasts_beginReconnect (hf : f.WellFormed may) (n : Nat) (r : Reconnect) :
    Lasts f (f.beginReconnect respond n r) := by
  have hhalt : f.haltTasks.changes = f.changes := by rw [haltTasks_eq]; rfl
  have hof : ∀ {k : Feed}, Lasts f.haltTasks k → Lasts f k := by
    rintro k (hk | hk)
    · refine .inl ⟨hk.status, hk.slot, hk.connects.trans ?_, hk.disconnects.trans ?_⟩
      · rw [haltTasks_eq]; rfl
      · rw [haltTasks_eq]
    · exact .inr (by rwa [hhalt] at hk)
  rcases beginReconnect_cases respond n r f with ⟨-, -, he⟩ | ⟨-, k, ht, he⟩
  · rw [he]
    exact .inr (.inl hhalt)
  · have hk : Lasts f k := by
      rcases ht with ⟨-, rfl⟩ | ⟨-, ht⟩
      · exact .inr (.inl hhalt)
      · exact hof (ht.lasts hr hmay hf.haltTasks (by simp))
    rw [he, sleepReconnect_eq]
    refine hk.rests ⟨rfl, rfl, ?_, rfl⟩ ?_
    · exact eq_of_engine (engine_log k _ _ _) Feed.connects fun k => connects_engine k
    · exact eq_of_engine (engine_log k _ _ _) Feed.changes fun k => changes_engine k

/-- What is left of the step of a read loop does not undo a stop. -/
lemma LoopRun.lasts {k : Generation} (hs : LoopRun respond k f f') (hmild : Mild may)
    (hf : k.loop ≠ .waiting → f.WellFormed may) : Lasts f f' := by
  cases hs with
  | began =>
    exact .inr (.inl rfl)
  | ended => exact .inr (.inl rfl)
  | worked _ _ hb => exact .inr (.inl hb.changes)
  | @opened deadline h socket =>
    have hf := hf (by simp [h])
    obtain ⟨j, hb, -, hj⟩ := loopConnected_cases respond k.epoch socket f
    have hclose : ∀ {i : Feed}, (i.beginClose k.epoch socket).changes = i.changes := fun {i} => rfl
    rcases hj with ⟨-, he⟩ | ⟨-, -, he⟩ | ⟨-, -, -, i, ht, he⟩
    · rw [he]
      exact .inr (.inl (hclose.trans hb.changes))
    · rw [he]
      exact .inr (.inl (hclose.trans hb.changes))
    · have hj := hf.busy hb
      have hi : (j.install k.epoch).WellFormed may := hj.install _
      have hji : Rests f (j.install k.epoch) := hb.rests.trans ⟨rfl, rfl, rfl, rfl⟩
      rw [he]
      refine ((ht.lasts hr hmay hi (by simp)).of_rests hji hb.changes).rests ⟨rfl, rfl, ?_, rfl⟩ ?_
      · exact eq_of_engine (engine_log i _ _ _) Feed.connects fun k => connects_engine k
      · exact eq_of_engine (engine_log i _ _ _) Feed.changes fun k => changes_engine k
  | failed h _ error =>
    obtain ⟨j, hb, -, he⟩ := failLoop_eq respond k.epoch error f
    rw [he]
    exact (lasts_connectionLost hr hmay ((hf h).busy hb) _ _).of_rests hb.rests hb.changes
  | @published _ _ _ j h hb _ event =>
    have hj := (hf (by simp [h])).busy hb
    have hn : (j.note (.eventPublished event)).WellFormed may := hj.note _
    obtain ⟨-, hy⟩ := (framed_yielding may).publishEvent hr hn
    have hjn : Rests j (j.note (.eventPublished event)) :=
      ⟨rfl, rfl, by simp [connects, note], rfl⟩
    have hl := (hy (hmild event)).lasts.of_rests (hb.rests.trans hjn) hb.changes
    exact hl.rests ⟨rfl, rfl, rfl, rfl⟩ rfl

/-- Whatever happens, other than to a disconnect, does not undo a stop that is made on the way. -/
lemma Stepped.lasts {event : Event} (hs : Stepped respond f event f') (hmild : Mild may)
    (hf : f.WellFormed may) (hd : ∀ n wake, event ≠ .run (.disconnect n) wake) : Lasts f f' := by
  have hof : ∀ task : Option Task, Lasts { f with current := task } f' → Lasts f f' :=
    fun _ h => h.of_rests ⟨rfl, rfl, rfl, rfl⟩ rfl
  cases hs with
  | called call =>
    refine hof none ?_
    cases call with
    | start retries => exact (started_start respond retries _).lasts hr hmay hf.noTurn
    | stop => exact .inl (stops_stop hr hmay hf.noTurn)
    | reconnect => exact .inr (.inl rfl)
    | disconnect => exact .inr (.inl rfl)
    | subscribe target name handler =>
      exact StopsAtMost.lasts (.inl (engine_subscribe _ target name handler))
    | unsubscribe handle => exact StopsAtMost.lasts (.inl (engine_unsubscribe _ handle))
    | publishStatus status =>
      have hn : ({ f with current := none }.note (.statusPublished status)).WellFormed may :=
        hf.noTurn.note _
      obtain ⟨-, hy⟩ := (framed_yielding may).publishStatus hr hn
      exact (hy (hmay status)).lasts.of_rests ⟨rfl, rfl, by simp [connects, note], rfl⟩ rfl
    | publishEvent event =>
      have hn : ({ f with current := none }.note (.eventPublished event)).WellFormed may :=
        hf.noTurn.note _
      obtain ⟨-, hy⟩ := (framed_yielding may).publishEvent hr hn
      exact (hy (hmild event)).lasts.of_rests ⟨rfl, rfl, by simp [connects, note], rfl⟩ rfl
    | release =>
      refine .inr (.inl ?_)
      unfold Feed.doCall Feed.release
      rw [haltTasks_eq, abortPending_eq]
      rfl
  | looped hg _ h => exact hof _ (h.lasts hr hmay hmild fun hw => hf.setCurrentLoop hg hw)
  | @watched k wake _ _ _ h =>
    have hw := hf.turn (.watch k.epoch) (by simp)
    refine hof (some (.watch k.epoch)) ?_
    cases h with
    | ended => exact .inr (.inl rfl)
    | slept => exact .inr (.inl rfl)
    | reported =>
      exact (lasts_connectionLost hr hmay (hw.setWatch _ _) _ _).of_rests ⟨rfl, rfl, rfl, rfl⟩ rfl
  | @reconnectBegan n =>
    have hturn := hf.turn (.reconnect n) (by simp)
    exact hof _ (lasts_beginReconnect hr hmay hturn _ _)
  | @reconnectEnded n r deadline epoch =>
    have hn : ({ f with current := some (.reconnect n) }.setReconnect n .finished).WellFormed may :=
      (hf.turn (.reconnect n) (by simp)).setReconnect (by simp) n
    refine hof (some (.reconnect n)) ?_
    rcases endReconnect_cases respond n epoch r { f with current := some (.reconnect n) } with
      ⟨-, he⟩ | ⟨-, -, he⟩
    · exact .inr (.inl (by rw [he]; rfl))
    · rw [he]
      exact ((started_restart respond _ _).lasts hr hmay hn).of_rests ⟨rfl, rfl, rfl, rfl⟩ rfl
  | disconnectBegan => exact absurd rfl (hd _ _)
  | disconnectJoined => exact absurd rfl (hd _ _)
  | disconnectAbandoned => exact absurd rfl (hd _ _)
  | refreshed hb => exact hof _ (.inr (.inl hb.changes))
  | ticked => exact .inr (.inl rfl)
  | reconnectGivenUp => exact .inr (.inl rfl)
  | disconnectGivenUp => exact .inr (.inl rfl)

end Lasts

/-! ### Halted states are final -/

/-- Nothing but a stop is asked for, neither by the caller nor by a subscriber that is brought in.
-/
def OnlyStops (may : Conduct) (f : Feed) (event : Event) : Prop :=
  event.Keeps may ∧ ∀ operation, f.operation? event = some operation → operation = .stop

/-- Halted states are final for background work. In a halted feed, no step of a read loop, of a
guardian or of a scheduled reconnect, and no wake-up of a reconnect of the caller, changes the
status or publishes one. Only a read loop may publish an event, and then it is for subscribers to
leave the feed alone. After a stop of the caller, with no disconnect waiting for a read loop, the
status stays as it is and no connection is begun until something other than a stop is asked for, by
the caller or by a subscriber that is told of the status. The same is true of a stop that is made by
a subscriber in the middle of a step, if subscribers ask for no more than that: the rest of the step
does not undo it. -/
theorem halted_final (depth : Nat) :
    (∀ f f' task wake, Reachable depth anyEvent f → f.status.isHalted = true →
      (∀ n, task ≠ .disconnect n) → f.operation? (.run task wake) = none →
      f.step? depth (.run task wake) = some f' →
        (Still f f' ∨ ∃ epoch, task = .loop epoch ∧
          PublishedBy (Feed.respond depth) epoch { f with current := some task } f') ∧
        (f.Keeps .quietOnEvents → Still f f')) ∧
    (∀ f f', Reachable depth anyEvent f → f.Keeps .stopOnStatus → (∀ epoch, ¬ f.Joined epoch) →
      f.step? depth (.call .stop) = some f' →
        f'.status = .stopUpdates ∧
        ∀ g, Reaches depth (fun k event => OnlyStops .stopOnStatus k event ∧
            ∀ published, event ≠ .call (.publishEvent published)) f' g →
          g.status = .stopUpdates ∧ g.connects = f'.connects) ∧
    (∀ f f' event news, Reachable depth anyEvent f → f.Keeps .onlyStop → event.Keeps .onlyStop →
      (∀ epoch, ¬ f.Joined epoch) → (∀ n wake, event ≠ .run (.disconnect n) wake) →
      f.step? depth event = some f' → f'.changes = news ++ f.changes → .stopUpdates ∈ news →
        f'.status = .stopUpdates ∧ f'.connects = f.connects ∧
        ∀ g, Reaches depth (OnlyStops .onlyStop) f' g →
          g.status = .stopUpdates ∧ g.connects = f'.connects) := by
  have hwf : ∀ {f}, Reachable depth anyEvent f → f.WellFormed Conduct.free :=
    fun hf => hf.wellFormed fun _ event _ => event.keeps_free
  refine ⟨?_, ?_, ?_⟩
  · intro f f' task wake hf hh hd ho hs
    have hcases := (stepped_of_step? (hwf hf) hs).still hh hd ho
    constructor
    · rcases hcases with hstill | ⟨k, -, rfl, -, hp⟩
      · exact .inl hstill
      · exact .inr ⟨k.epoch, rfl, hp⟩
    · intro hquiet
      rcases hcases with hstill | ⟨k, hk, rfl, hw, hp⟩
      · exact hstill
      · have hq := ((hwf hf).of_keeps hquiet).setCurrentLoop hk hw
        refine (still_turn f _).trans (hp.still hq ?_)
        rintro event operation ⟨status, hn⟩
        exact absurd hn (by simp)
  · intro f f' hf hk hj hs
    have hmay : ∀ status operation, Conduct.stopOnStatus (.status status) operation →
        operation = .stop := by
      rintro status operation (h | ⟨event, hn⟩)
      · exact h
      · exact absurd hn (by simp)
    have hresp := ((conducted_yielding hmay).respond depth).and
    have hfk := (hwf hf).of_keeps hk
    have hstep := stepped_of_step? hfk hs
    have hf' := hstep.upkeep hresp.1 hfk trivial
    have hcur := hstep.current_eq hresp.1 hfk
    obtain rfl := Option.some.inj hs
    have hst := (stops_stop hresp.2 hmay hfk.noTurn).stopped hj
    refine ⟨hst.status, fun g hg => ?_⟩
    refine hst.reaches hf' hmay (.inr fun e he => ?_) (fun k event ha => ?_) hg
    · exact absurd (hcur.symm.trans he) (by simp [Event.task?])
    · exact ⟨ha.1.1, ha.1.2, .inr ha.2⟩
  · intro f f' event news hf hk he hj hd hs hn hm
    have hmay : ∀ status operation, Conduct.onlyStop (.status status) operation →
        operation = .stop := fun _ _ h => h
    have hmild : Mild Conduct.onlyStop := fun _ _ h => h
    have hresp := ((conducted_yielding hmay).respond depth).and
    have hfk := (hwf hf).of_keeps hk
    have hstep := stepped_of_step? hfk hs
    have hf' := hstep.upkeep hresp.1 hfk he
    have hst := (hstep.lasts hresp.2 hmay hmild hfk hd).stops hn hm
    refine ⟨hst.status, hst.connects, fun g hg => ?_⟩
    exact (hst.stopped hj).reaches hf' hmay (.inl hmild)
      (fun k event ha => ⟨ha.1, ha.2, .inl hmild⟩) hg

/-- A read loop whose connection ends while the feed is disconnecting, a stop while a connection is
being opened, and a stop by a subscriber that is told of a start. -/
theorem halted_final_instances :
    (∃ f f' : Feed, f.status = .disconnecting ∧ f.step? 1 (.run (.loop 1) .ended) = some f' ∧
      Still f f') ∧
    (∃ f f' : Feed, f.status = .initializing ∧ f.step? 1 (.call .stop) = some f' ∧
      f'.status = .stopUpdates ∧
      ∀ g, Reaches 1 (fun k event => OnlyStops .stopOnStatus k event ∧
          ∀ published, event ≠ .call (.publishEvent published)) f' g →
        g.status = .stopUpdates ∧ g.connects = f'.connects) ∧
    (∃ f f' : Feed, f.status = .notStarted ∧ f.step? 1 (.call (.start 0)) = some f' ∧
      f'.status = .stopUpdates ∧ f'.connects = f.connects ∧
      ∀ g, Reaches 1 (OnlyStops .onlyStop) f' g →
        g.status = .stopUpdates ∧ g.connects = f'.connects) := by
  have hjoins : ∀ {f : Feed}, f.disconnects = [] → ∀ epoch, ¬ f.Joined epoch := by
    rintro f hf epoch ⟨n, d, t, hd, -⟩
    rw [hf] at hd
    exact absurd hd (by simp)
  refine ⟨?_, ?_, ?_⟩
  · let events : List Event :=
      [.call (.start 0), .run (.loop 1) .first, .run (.loop 1) (.connected 0), .call .disconnect,
        .run (.disconnect 0) .first]
    have hplay : (played? 1 events).map
        (fun f => (f.status, (f.step? 1 (.run (.loop 1) .ended)).isSome)) =
          some (.disconnecting, true) := by decide +kernel
    obtain ⟨f, hf, hview⟩ := Option.map_eq_some_iff.1 hplay
    obtain ⟨hstatus, hsome⟩ := Prod.mk.inj hview
    obtain ⟨f', hs⟩ := Option.isSome_iff_exists.1 hsome
    have hquiet : f.Keeps .quietOnEvents := keeps_of_played? hf (by simp [events, Event.Keeps])
    have hfinal := (halted_final 1).1 f f' (.loop 1) .ended
      (.of_played? hf fun _ _ _ => trivial) (by rw [hstatus]; rfl) (by simp) rfl hs
    exact ⟨f, f', hstatus, hs, hfinal.2 hquiet⟩
  · let events : List Event := [.call (.start 0), .run (.loop 1) .first]
    have hplay : (played? 1 events).map (fun f => (f.status, f.disconnects)) =
        some (.initializing, []) := by decide +kernel
    obtain ⟨f, hf, hview⟩ := Option.map_eq_some_iff.1 hplay
    obtain ⟨hstatus, hdisc⟩ := Prod.mk.inj hview
    have hkeeps : f.Keeps .stopOnStatus := keeps_of_played? hf (by simp [events, Event.Keeps])
    exact ⟨f, _, hstatus, rfl, (halted_final 1).2.1 f _ (.of_played? hf fun _ _ _ => trivial) hkeeps
      (hjoins hdisc) rfl⟩
  · let events : List Event := [.call (.subscribe .status "gives up" fun _ => [.stop])]
    have hplay : (played? 1 events).map (fun f =>
        ((f.status, f.disconnects, f.changes), (f.step? 1 (.call (.start 0))).map Feed.changes)) =
          some ((.notStarted, [], []), some [.stopUpdates, .initializing]) := by decide +kernel
    obtain ⟨f, hf, hview⟩ := Option.map_eq_some_iff.1 hplay
    obtain ⟨⟨hstatus, hdisc, hold⟩, hnew⟩ : (f.status = .notStarted ∧ f.disconnects = [] ∧
        f.changes = []) ∧ (f.step? 1 (.call (.start 0))).map Feed.changes =
          some [.stopUpdates, .initializing] := by simpa using hview
    obtain ⟨f', hs, hchanges⟩ := Option.map_eq_some_iff.1 hnew
    have hkeeps : f.Keeps .onlyStop := by
      refine keeps_of_played? hf fun event he => ?_
      rw [List.mem_singleton.1 he]
      intro told heard c hc
      rw [List.mem_singleton.1 hc]
      exact .stop rfl
    exact ⟨f, f', hstatus, hs, (halted_final 1).2.2 f f' (.call (.start 0))
      [.stopUpdates, .initializing] (.of_played? hf fun _ _ _ => trivial) hkeeps trivial
      (hjoins hdisc) (by simp) hs (by rw [hchanges, hold]; rfl) (by simp)⟩

end EventFeed.Feed
