import EventFeed.Proofs.Feed.Placement

/-!
# Within an epoch

Operations that are accepted end the epoch, and so what happens as long as an epoch lasts is easily
told. The slot stays as it is. The status stays as well, unless the read loop that is held gets the
feed connected, or one of the tasks that are held reports a loss, or an earlier disconnect comes to
its end. In particular a feed gets to reconnecting in no epoch that it is not reconnecting in from
the start.
-/

namespace EventFeed.Feed

variable {may : Conduct} {respond : Respond} {f f' g : Feed}

/-- If the epoch has not passed, then the slot is the same, and so is the status unless a task of
the generation that is held has changed it. -/
def Within (f g : Feed) : Prop :=
  g.epoch = f.epoch → g.slot = f.slot ∧ (g.status = f.status ∨
    (f.slot = some f.epoch ∧ f.status.isHalted = false ∧
      (g.status = .connected ∧ f.status = .initializing ∨ g.status = .lostConnection)))

/-- An epoch that has passed is not spoken of. -/
lemma Within.of_lt (h : f.epoch < g.epoch) : f.Within g :=
  fun he => absurd he (Nat.ne_of_gt h)

/-- Neither the epoch nor the slot nor the status has changed. -/
lemma Within.of_eq (he : (g.epoch, g.slot, g.status) = (f.epoch, f.slot, f.status)) :
    f.Within g := by
  simp only [Prod.mk.injEq] at he
  exact fun _ => ⟨he.2.1, .inl he.2.2⟩

/-- Operations change nothing within an epoch. -/
lemma Passes.within (h : f.Passes g) : f.Within g := by
  rcases h with h | h
  · exact .of_lt h
  · exact .of_eq (eq_of_engine h (fun k => (k.epoch, k.slot, k.status)) fun _ => rfl)

/-- Work of read loops changes neither the slot nor the status. -/
lemma Busy.within (hb : f.Busy g) : f.Within g := by
  obtain ⟨_, _, _, _, _, rfl⟩ := hb.rest
  exact .of_eq rfl

/-- What comes before or after without touching the epoch, the slot and the status is of no
account. -/
lemma Within.congr {i j : Feed} (h : f.Within g)
    (hf : (f.epoch, f.slot, f.status) = (i.epoch, i.slot, i.status))
    (hg : (j.epoch, j.slot, j.status) = (g.epoch, g.slot, g.status)) : i.Within j := by
  simp only [Prod.mk.injEq] at hf hg
  unfold Within at h ⊢
  rwa [hg.1, hg.2.1, hg.2.2, ← hf.1, ← hf.2.1, ← hf.2.2]

/-! ### Tasks -/

section Passing

variable (hr : Respects (WellFormed may) (fun _ f g => f.Later g ∧ f.Passes g) respond)

include hr

/-- A report of a loss may change the status to that. -/
lemma within_connectionLost (hf : f.WellFormed may) {epoch : Nat} (retries : UInt32)
    (hgen : ∃ k ∈ f.generations, k.epoch = epoch) :
    f.Within (f.connectionLost respond epoch retries) := by
  rcases connectionLost_cases respond epoch retries f with ⟨-, he⟩ | ⟨-, hlive, k, ht, he⟩
  · rw [he]
    exact .of_eq rfl
  obtain ⟨hh, hepoch⟩ : f.status.isHalted = false ∧ f.epoch = epoch := by
    simpa [isLive] using hlive
  obtain ⟨i, hi, hie⟩ := hgen
  have hslot := hf.slot_of_epoch_eq hi (hie.trans hepoch.symm)
  have hk : f.Within k := by
    intro hsame
    obtain ⟨hs, hst | ⟨-, -, h⟩⟩ := (ht.passes hr.and.2 hf).within hsame
    · exact ⟨hs, .inr ⟨hslot, hh, .inr hst⟩⟩
    · exact ⟨hs, .inr ⟨hslot, hh, h.imp_left fun h => absurd h.2 (by simp [announce, note])⟩⟩
  rw [he]
  rcases scheduleReconnect_cases epoch retries k with ⟨-, hs⟩ | ⟨-, -, hs⟩
  · rwa [hs]
  · rw [hs]
    exact hk.congr rfl rfl

/-- A read loop that has got no further than to connect may get the feed connected, from the status
of a feed that connects. -/
lemma within_loopConnected {k : Generation} (hp : f.Placed False) (hf : f.WellFormed may)
    (hk : k ∈ f.generations) (hrank : k.loop.rank ≤ 1) (socket : Nat) :
    f.Within (f.loopConnected respond k.epoch socket) := by
  have hmem : (k.epoch, k.loop) ∈ f.loops := List.mem_map_of_mem hk
  obtain ⟨j, hb, ⟨hl, -⟩, hj⟩ := loopConnected_cases respond k.epoch socket f
  have hjf := hf.busy hb
  have hfj : (j.epoch, j.slot, j.status) = (f.epoch, f.slot, f.status) := by
    obtain ⟨_, _, _, _, _, rfl⟩ := hb.rest
    rfl
  rcases hj with ⟨-, he⟩ | ⟨-, -, he⟩ | ⟨hje, -, hh, i, ht, he⟩
  · rw [he]
    exact hb.within.congr rfl rfl
  · rw [he]
    exact hb.within.congr rfl rfl
  obtain ⟨k', hk', hke⟩ := hb.exists_generation hk
  have hkj := hke.trans hje.symm
  have hlt : k'.loop.rank < 2 :=
    Nat.lt_succ_of_le (hjf.rank_of_later (.refl j) (hl.symm ▸ hmem) hrank k' hk' hke)
  have hinit : j.status = .initializing := (hp.busy hb).initializing hjf hk' hkj hlt hh
  have hji : (j.install k.epoch).WellFormed may := hjf.install _
  have hij : j.Within i := by
    intro hsame
    obtain ⟨hs, hst | ⟨-, -, h⟩⟩ := (ht.passes hr.and.2 hji).within hsame
    · exact ⟨hs, .inr ⟨hjf.slot_of_epoch_eq hk' hkj, hh, .inl ⟨hst, hinit⟩⟩⟩
    · exact ⟨hs, .inr ⟨hjf.slot_of_epoch_eq hk' hkj, hh, h.imp_left fun ⟨h, _⟩ => ⟨h, hinit⟩⟩⟩
  rw [he]
  exact hij.congr hfj rfl

/-- The publication of an event changes nothing within an epoch. -/
lemma within_publishEvent (hf : f.WellFormed may) (event : RoutedEvent) :
    f.Within (publishEvent respond event f).2 := by
  have hn : (f.note (.eventPublished event)).WellFormed may := hf.note _
  exact ((framed_passes may).publishEvent hr.and.2 hn).2.within.congr rfl rfl

/-- A turn of a read loop may change the status if its generation is held. -/
lemma LoopRun.within {k : Generation} (hs : LoopRun respond k f f') (hp : f.Placed False)
    (hf : k.loop ≠ .waiting → f.WellFormed may) (hk : k ∈ f.generations) : f.Within f' := by
  cases hs with
  | began => exact .of_eq rfl
  | ended => exact .of_eq rfl
  | worked _ _ hb => exact hb.within
  | opened hc socket =>
    exact within_loopConnected hr hp (hf (by simp [hc])) hk (by simp [hc, LoopPhase.rank]) socket
  | failed hw _ error =>
    obtain ⟨j, hb, -, he⟩ := failLoop_eq respond k.epoch error f
    have hfj : (j.epoch, j.slot, j.status) = (f.epoch, f.slot, f.status) := by
      obtain ⟨_, _, _, _, _, rfl⟩ := hb.rest
      rfl
    have hlost := within_connectionLost hr ((hf hw).busy hb) f.retry.attempt
      (hb.exists_generation hk)
    rw [he]
    exact hlost.congr hfj rfl
  | @published _ _ _ j hread hb _ event =>
    have hfj : (j.epoch, j.slot, j.status) = (f.epoch, f.slot, f.status) := by
      obtain ⟨_, _, _, _, _, rfl⟩ := hb.rest
      rfl
    have hpub := within_publishEvent hr ((hf (by simp [hread])).busy hb) event
    exact hpub.congr hfj rfl

/-- A turn of a guardian may change the status if its generation is held. -/
lemma WatchRun.within {k : Generation} (hs : WatchRun respond k.epoch f f')
    (hf : f.WellFormed may) (hk : k ∈ f.generations) : f.Within f' := by
  cases hs with
  | ended => exact .of_eq rfl
  | slept => exact .of_eq rfl
  | reported =>
    have hgen : ∃ i ∈ (f.setWatch k.epoch .finished).generations, i.epoch = k.epoch :=
      ⟨_, List.mem_map_of_mem hk, by simp⟩
    have hlost := within_connectionLost hr (hf.setWatch k.epoch .finished) 0 hgen
    exact hlost.congr rfl rfl

/-! ### Operations -/

/-- A call of the caller changes nothing within an epoch. -/
lemma within_doCall (hf : f.WellFormed may) (call : Call) : f.Within (f.doCall respond call) := by
  cases call with
  | start retries => exact (passes_start hr.and.2 retries hf).within
  | stop => exact .of_lt (lt_epoch_stop hr.and.1 hf)
  | reconnect delay retries => exact .of_eq rfl
  | disconnect => exact .of_eq rfl
  | subscribe target name handler =>
    exact Passes.within (.inr (engine_subscribe f target name handler))
  | unsubscribe handle => exact Passes.within (.inr (engine_unsubscribe f handle))
  | publishStatus status =>
    have hn : (f.note (.statusPublished status)).WellFormed may := hf.note _
    exact ((framed_passes may).publishStatus hr.and.2 hn).2.within.congr rfl rfl
  | publishEvent event => exact within_publishEvent hr hf event
  | release =>
    refine .of_lt ?_
    show f.epoch < f.release.epoch
    rw [Feed.release, haltTasks_eq, abortPending_eq]
    exact Nat.lt_succ_self _

/-- A reconnect that wakes up does nothing, or it ends the epoch. -/
lemma endReconnect_passes (hf : f.WellFormed may) (n epoch : Nat) (r : Reconnect) :
    f.endReconnect respond n epoch r = f.setReconnect n .finished ∨
      (f.epoch = epoch ∧ f.status = .reconnecting ∧
        f.epoch < (f.endReconnect respond n epoch r).epoch) := by
  rcases endReconnect_cases respond n epoch r f with ⟨-, he⟩ | ⟨hepoch, hs, he⟩
  · exact .inl he
  · have hn : (f.setReconnect n .finished).WellFormed may := hf.setReconnect (by simp) n
    have hrec : (f.setReconnect n .finished).status = .reconnecting := hs
    refine .inr ⟨hepoch, hs, ?_⟩
    rw [he]
    exact lt_epoch_startWhere hr.and.2 _ _ hn (by simp [hrec]) (by simp [hrec])

/-- The end of a disconnect leaves the slot within an epoch, and the feed is disconnected then. -/
lemma endDisconnect_within (hf : f.WellFormed may) (n : Nat)
    (he : (f.endDisconnect respond n).epoch = f.epoch) :
    (f.endDisconnect respond n).slot = f.slot ∧
      (f.endDisconnect respond n).status = .disconnected := by
  obtain ⟨k, ht, hend⟩ := endDisconnect_cases respond n f
  have hi : { f with installed := none }.WellFormed may := hf.uninstall
  rw [hend] at he ⊢
  rcases ht with ⟨hs, rfl⟩ | ⟨-, ht⟩
  · exact ⟨rfl, hs⟩
  · have hsame : k.epoch = ({ f with installed := none }.announce .disconnected).epoch := he
    obtain ⟨hslot, hst | ⟨-, hh, -⟩⟩ := (ht.passes hr.and.2 hi).within hsame
    · exact ⟨hslot, hst⟩
    · exact absurd hh (by simp [announce, note, ConnectionState.isHalted])

/-! ### Steps -/

/-- Within an epoch the slot stays as it is, and the status changes by a task of the generation that
is held, or by the end of a disconnect. -/
theorem Stepped.within {event : Event} (hs : Stepped respond f event f') (hp : f.Placed False)
    (hf : f.WellFormed may) (he : f'.epoch = f.epoch) :
    f'.slot = f.slot ∧ (f'.status = f.status ∨
      (f.slot = some f.epoch ∧ f.status.isHalted = false ∧
        (f'.status = .connected ∧ f.status = .initializing ∨ f'.status = .lostConnection)) ∨
      (f'.status = .disconnected ∧ ∃ n wake, event = .run (.disconnect n) wake)) := by
  have mild : f.Within f' → f'.slot = f.slot ∧ (f'.status = f.status ∨
      (f.slot = some f.epoch ∧ f.status.isHalted = false ∧
        (f'.status = .connected ∧ f.status = .initializing ∨ f'.status = .lostConnection)) ∨
      (f'.status = .disconnected ∧ ∃ n wake, event = .run (.disconnect n) wake)) := fun h =>
    ⟨(h he).1, (h he).2.imp_right .inl⟩
  cases hs with
  | called call => exact mild ((within_doCall hr hf.noTurn call).congr rfl rfl)
  | @looped k _ _ hk _ hrun =>
    have hplaced : { f with current := some (.loop k.epoch) }.Placed False := hp.congr rfl
    exact mild ((hrun.within hr hplaced (fun hw => hf.setCurrentLoop hk hw) hk).congr rfl rfl)
  | @watched k _ _ hk _ hrun =>
    exact mild ((hrun.within hr (hf.turn (.watch k.epoch) (by simp)) hk).congr rfl rfl)
  | @reconnectBegan n r =>
    have hlt := lt_epoch_beginReconnect hr.and.1 n r (hf.turn (.reconnect n) (by simp))
    exact mild (.of_lt hlt)
  | @reconnectEnded n r _ epoch =>
    rcases endReconnect_passes hr (hf.turn (.reconnect n) (by simp)) n epoch r with
      hend | ⟨-, -, hlt⟩
    · exact mild (.of_eq (by rw [hend]; rfl))
    · exact mild (.of_lt hlt)
  | @disconnectBegan n =>
    have hlt := lt_epoch_beginDisconnect hr.and.1 n (hf.turn (.disconnect n) (by simp))
    exact mild (.of_lt hlt)
  | @disconnectJoined n =>
    obtain ⟨hslot, hst⟩ := endDisconnect_within hr (hf.turn (.disconnect n) (by simp)) n he
    exact ⟨hslot, .inr (.inr ⟨hst, n, _, rfl⟩)⟩
  | @disconnectAbandoned n d epoch _ hd hj =>
    have hab := (hf.turn (.disconnect n) (by simp)).abandonLoop hd hj
    obtain ⟨hslot, hst⟩ := endDisconnect_within hr hab n he
    exact ⟨hslot, .inr (.inr ⟨hst, n, _, rfl⟩)⟩
  | refreshed hb => exact mild (hb.within.congr rfl rfl)
  | ticked => exact mild (.of_eq rfl)
  | reconnectGivenUp => exact mild (.of_eq rfl)
  | disconnectGivenUp => exact mild (.of_eq rfl)

end Passing

end EventFeed.Feed
