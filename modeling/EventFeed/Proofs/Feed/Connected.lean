import EventFeed.Proofs.Feed.Sessions
import EventFeed.Proofs.Feed.Superseded
import EventFeed.Proofs.Feed.Undisturbed

/-!
# How long a feed stays connected

A feed that has got connected in an epoch is connected for as long as the epoch lasts, unless a task
of that epoch reports a loss or an earlier disconnect comes to its end. The epoch in turn lasts
until somebody operates the feed: a caller, a subscriber that answers a notice, or a reconnect that
begins. `Stays` puts both together, with whether anybody operates the feed as a parameter. Where
nobody does, it says that the feed is connected in that epoch still.
-/

namespace EventFeed

/-- A caller operates the feed or lets go of it, or a reconnect or a disconnect goes on that has
been asked for before. -/
def Event.operates : Event → Bool
  | .call (.start _) | .call .stop | .call (.reconnect _ _) | .call .disconnect
  | .call .release => true
  | .run (.reconnect _) _ | .run (.disconnect _) _ => true
  | _ => false

namespace Feed

variable {may : Conduct} {respond : Respond} {operated : Prop} {e : Nat} {f f' g : Feed}

/-- The feed is connected in an epoch, or it has been operated and the epoch has passed. -/
def Stays (operated : Prop) (e : Nat) (f : Feed) : Prop :=
  f.epoch = e ∧ f.status = .connected ∨ operated ∧ e < f.epoch

/-- Whether a feed stays connected is a matter of its epoch and its status. -/
lemma Stays.congr (h : f.Stays operated e) (he : (g.epoch, g.status) = (f.epoch, f.status)) :
    g.Stays operated e := by
  obtain ⟨epoch, status⟩ := Prod.mk.inj he
  unfold Stays
  rwa [epoch, status]

/-- Subscribers have no part in it as long as the engine is the same. -/
lemma Stays.of_engine (h : f.Stays operated e) (he : g.engine = f.engine) : g.Stays operated e :=
  h.congr (eq_of_engine he (fun k => (k.epoch, k.status)) fun _ => rfl)

/-- A read loop may wait for the next frame meanwhile. -/
lemma Stays.awaitFrame (h : f.Stays operated e) (i socket : Nat) :
    (f.awaitFrame i socket).Stays operated e :=
  h.congr rfl

/-- It may begin to close its socket as well. -/
lemma Stays.beginClose (h : f.Stays operated e) (i socket : Nat) :
    (f.beginClose i socket).Stays operated e :=
  h.congr rfl

/-- An epoch that has passed does not come back. -/
lemma Stays.of_lt (h : f.Stays operated e) (ho : operated) (hlt : f.epoch < g.epoch) :
    g.Stays operated e := by
  rcases h with ⟨he, -⟩ | ⟨-, he⟩
  · exact .inr ⟨ho, he ▸ hlt⟩
  · exact .inr ⟨ho, Nat.lt_trans he hlt⟩

/-! ### Answers of subscribers -/

section Answers

variable (hp : Respects (WellFormed may) (fun _ f g => f.Later g ∧ f.Passes g) respond)
variable (hq : Restrained may respond)
variable (hmay : ∀ notice operation, may notice operation → operated)

include hmay in
/-- What answers a notice does nothing to the engine or ends the epoch, and if no operation may
answer it, it does nothing. -/
lemma Stays.answered {notice : Notice} (h : f.Stays operated e) (hpass : f.Passes g)
    (hquiet : Quiet may notice f g) : g.Stays operated e := by
  by_cases hno : ∀ operation, ¬ may notice operation
  · exact h.of_engine (hquiet hno)
  · obtain ⟨operation, ho⟩ := not_forall_not.1 hno
    rcases hpass with hlt | heng
    · exact h.of_lt (hmay notice operation ho) hlt
    · exact h.of_engine heng

include hp hq hmay

/-- Telling subscribers of the status. -/
lemma Told.stays {s : ConnectionState} (ht : Told respond s f g) (hf : f.WellFormed may)
    (h : (f.announce s).Stays operated e) : g.Stays operated e :=
  h.answered hmay (ht.passes hp.and.2 hf)
    ((conducted_quiet may).told hq ht (hf.announce s)).2.2

/-- Publishing an event. -/
lemma stays_publishEvent (h : f.Stays operated e) (hf : f.WellFormed may) (event : RoutedEvent) :
    (publishEvent respond event f).2.Stays operated e := by
  have hn : (f.note (.eventPublished event)).WellFormed may := hf.note _
  have hstay : (f.note (.eventPublished event)).Stays operated e := h.congr rfl
  exact hstay.answered hmay ((framed_passes may).publishEvent hp.and.2 hn).2
    ((conducted_quiet may).publishEvent hq hn).2.2

/-- Publishing a status. -/
lemma stays_publishStatus (h : f.Stays operated e) (hf : f.WellFormed may)
    (status : ConnectionState) : (publishStatus respond status f).2.Stays operated e := by
  have hn : (f.note (.statusPublished status)).WellFormed may := hf.note _
  have hstay : (f.note (.statusPublished status)).Stays operated e := h.congr rfl
  exact hstay.answered hmay ((framed_passes may).publishStatus hp.and.2 hn).2
    ((conducted_quiet may).publishStatus hq hn).2.2

/-- A socket that has been opened, and from which frames are read, leaves a connected feed. -/
lemma stays_loopConnected {k : Generation} {socket : Nat} (hf : f.WellFormed may)
    (hk : k ∈ (f.loopConnected respond e socket).generations) (hke : k.epoch = e)
    (hread : k.loop.isReading = true) : (f.loopConnected respond e socket).Stays operated e := by
  have hclosing : ∀ {i : Feed}, k ∉ (i.beginClose e socket).generations := by
    intro i hi
    obtain ⟨j, -, -, rfl⟩ := exists_of_mem_changeGeneration hi hke
    exact absurd hread (by simp [LoopPhase.isReading])
  rcases loopConnected_opening respond e socket f with
    ⟨-, hc⟩ | ⟨-, -, hc⟩ | ⟨he, -, -, i, ht, hc⟩
  · exact absurd (hc ▸ hk) hclosing
  · exact absurd (hc ▸ hk) hclosing
  · have hi : ((f.opening e socket).install e).WellFormed may :=
      (hf.busy (busy_opening e socket f)).install e
    have hsaid : (((f.opening e socket).install e).announce .connected).Stays operated e :=
      .inl ⟨he, rfl⟩
    have hstay : (i.log .info "Event stream connected"
        [epochField e, ("url", i.request.url)]).Stays operated e :=
      (ht.stays hp hq hmay hi hsaid).congr rfl
    rw [hc]
    exact hstay.awaitFrame e socket

/-- A turn of a read loop that fails with nothing. -/
lemma LoopTurn.stays {k : Generation} {wake : Wake} (ht : LoopTurn respond k f wake f')
    (hf : k.loop ≠ .waiting → f.WellFormed may) (he : f.epoch = e) (hs : f.status = .connected)
    (hno : k.failure? f.settings wake = none) : f'.Stays operated e := by
  have hnow : f.Stays operated e := .inl ⟨he, hs⟩
  cases ht with
  | began => exact hnow.congr rfl
  | opened h socket =>
    have hopen : (f.opening k.epoch socket).Stays operated e := hnow.congr rfl
    have hnone : { (f.opening k.epoch socket).install k.epoch with installed := none }.Stays
        operated e := hopen.congr rfl
    rcases loopConnected_opening respond k.epoch socket f with
      ⟨-, hc⟩ | ⟨-, -, hc⟩ | ⟨-, hne, -⟩
    · rw [hc]
      exact hopen.beginClose k.epoch socket
    · rw [hc]
      exact hnone.beginClose k.epoch socket
    · exact absurd hs hne
  | failed h => exact absurd (hno.symm.trans h) (by simp)
  | @received socket _ _ h frame hframe =>
    obtain ⟨j, hb, -, hend⟩ := loopFrame_hears respond k.epoch socket hframe f
    have hj := (hf (by simp [h])).busy hb
    have hstay : j.Stays operated e := by
      obtain ⟨_, _, _, _, _, rfl⟩ := hb.rest
      exact hnow.congr rfl
    rcases hend with hend | ⟨event, hend⟩
    · rw [hend]
      exact hstay.awaitFrame k.epoch socket
    · rw [hend]
      exact (stays_publishEvent hp hq hmay hstay hj event).awaitFrame k.epoch socket
  | left => exact hnow.congr rfl
  | closing => exact hnow.congr rfl
  | closed => exact hnow.congr rfl
  | panicked => exact hnow.congr rfl

/-- A call of the caller. -/
lemma stays_doCall (hf : f.WellFormed may) (h : f.Stays operated e) {call : Call}
    (ho : (Event.call call).operates = true → operated) :
    (f.doCall respond call).Stays operated e := by
  cases call with
  | start retries =>
    rcases passes_start hp.and.2 retries hf with hlt | heng
    · exact h.of_lt (ho rfl) hlt
    · exact h.of_engine heng
  | stop => exact h.of_lt (ho rfl) (lt_epoch_stop hp.and.1 hf)
  | reconnect delay retries => exact h.congr rfl
  | disconnect => exact h.congr rfl
  | subscribe target name handler => exact h.of_engine (engine_subscribe f target name handler)
  | unsubscribe handle => exact h.of_engine (engine_unsubscribe f handle)
  | publishStatus status => exact stays_publishStatus hp hq hmay h hf status
  | publishEvent event => exact stays_publishEvent hp hq hmay h hf event
  | release =>
    refine h.of_lt (ho rfl) ?_
    show f.epoch < f.release.epoch
    rw [Feed.release, haltTasks_eq, abortPending_eq]
    exact Nat.lt_succ_self _

end Answers

/-! ### Steps -/

/-- A guardian that reports no loss leaves the feed as it stands. -/
lemma standing_of_watch {depth : Nat} {wake : Wake} (hf : f.WellFormed may)
    (hs : f.step? depth (.run (.watch e) wake) = some f')
    (hno : f.loss? (.run (.watch e) wake) = none) : f'.standing = f.standing := by
  obtain ⟨g, hg, rfl, -, ht⟩ := watchTurn_of_step? hf hs
  cases ht with
  | began => rfl
  | ended => rfl
  | reported _ _ he hst =>
    have hsome : f.loss? (.run (.watch g.epoch) .elapsed) =
        some { reporter := .watch g.epoch, epoch := g.epoch, retries := 0 } := if_pos ⟨he, hst⟩
    exact absurd (hno.symm.trans hsome) (by simp)
  | slept => rfl

/-- A socket is opened in the turn of the read loop that has been connecting. -/
lemma loopConnected_of_step? {depth socket : Nat} (hf : f.WellFormed may)
    (hs : f.step? depth (.run (.loop e) (.connected socket)) = some f') :
    { f with current := some (.loop e) }.WellFormed may ∧ e ≤ f.epoch ∧
      f' = { f with current := some (.loop e) }.loopConnected (Feed.respond depth) e socket := by
  obtain ⟨k, hk, rfl, -, ht⟩ := loopTurn_of_step? hf hs
  cases ht with
  | opened h => exact ⟨hf.setCurrentLoop hk (by simp [h]), hf.epoch_le hk, rfl⟩
  | failed h => cases hl : k.loop <;> simp [Generation.failure?, hl] at h

/-- A step in which no loss of the epoch is reported and no disconnect goes on. -/
theorem Stays.step {depth : Nat} {event : Event} (h : f.Stays operated e)
    (hmay : ∀ notice operation, may notice operation → operated) (hf : f.WellFormed may)
    (hs : f.step? depth event = some f') (ho : event.operates = true → operated)
    (hloss : ∀ loss, f.loss? event = some loss → loss.epoch ≠ e)
    (hdis : ∀ n, Event.task? event ≠ some (.disconnect n)) : f'.Stays operated e := by
  have hp := (conducted_passes may).respond depth
  have hq := (conducted_quiet may).respond depth
  have hstep := stepped_of_step? hf hs
  rcases h with ⟨rfl, hc⟩ | ⟨hop, hlt⟩
  case inr => exact .inr ⟨hop, Nat.lt_of_lt_of_le hlt (hstep.onward hp.and.1 hf).epoch⟩
  have hnow : f.Stays operated f.epoch := .inl ⟨rfl, hc⟩
  rcases loss_or_of_step? hf hs with ⟨hno, -⟩ | ⟨loss, k, hl, hrep, hk⟩
  case inr =>
    -- The loss is one of another epoch, and so nobody heeds it.
    have hun : k.heeds loss = false := by
      rw [hrep.heeds_eq]
      simp [heeds, isLive, Ne.symm (hloss loss hl)]
    have hspares := hrep.spares
    rw [connectionLost_of_not_heeds _ hun] at hk
    simp only [Prod.mk.injEq] at hspares
    obtain ⟨hst, hepoch, -⟩ := hspares
    subst hk
    exact hnow.congr (by rw [hst, hepoch])
  cases hstep with
  | called call => exact stays_doCall hp hq hmay hf.noTurn (hnow.congr rfl) ho
  | looped =>
    obtain ⟨i, hi, hie, -, ht⟩ := loopTurn_of_step? hf hs
    rw [← hie] at ht hno
    refine ht.stays hp hq hmay (fun hw => hf.setCurrentLoop hi hw) rfl hc ?_
    simpa [loss?, hf.generation?_eq_some_iff.2 ⟨hi, rfl⟩] using hno
  | watched =>
    have hstand := standing_of_watch hf hs hno
    exact hnow.congr
      (Prod.ext (congrArg Standing.epoch hstand) (congrArg Standing.status hstand))
  | @reconnectBegan n r =>
    have hlt := lt_epoch_beginReconnect hp.and.1 n r (hf.turn (.reconnect n) (by simp))
    exact hnow.of_lt (ho rfl) hlt
  | @reconnectEnded n r _ epoch =>
    rcases endReconnect_passes hp (hf.turn (.reconnect n) (by simp)) n epoch r with
      hend | ⟨-, hrec, -⟩
    · rw [hend]
      exact hnow.congr rfl
    · exact absurd (hc.symm.trans hrec) (by simp)
  | @disconnectBegan n => exact absurd rfl (hdis n)
  | @disconnectJoined n => exact absurd rfl (hdis n)
  | @disconnectAbandoned n => exact absurd rfl (hdis n)
  | refreshed hb =>
    obtain ⟨_, _, _, _, _, rfl⟩ := hb.rest
    exact hnow.congr rfl
  | ticked => exact hnow.congr rfl
  | reconnectGivenUp => exact hnow.congr rfl
  | disconnectGivenUp => exact hnow.congr rfl

end Feed

end EventFeed
