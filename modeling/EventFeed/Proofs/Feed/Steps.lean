import EventFeed.Proofs.Feed.Tasks

/-!
# Every step keeps the bookkeeping

A step is a call of the caller, a task that runs on to where it waits next, the clock, or a call
that the caller gives up. `Stepped` tells the steps apart, once for everything that is proved of
them. The first such thing is that whatever subscribers do in the course of a step, as long as they
keep their conduct and whoever is brought in keeps it too, a well-formed feed stays well-formed.
-/

namespace EventFeed.Feed

variable {may : Conduct} {respond : Respond} {f f' g : Feed}

/-! ### What a step comes to -/

/-- What an event comes to, for everything that can happen to a feed. -/
inductive Stepped (respond : Respond) (f : Feed) : Event → Feed → Prop
  | called (call : Call) :
      Stepped respond f (.call call) ({ f with current := none }.doCall respond call)
  | looped {g : Generation} {wake : Wake} {f' : Feed} (hg : g ∈ f.generations)
      (hm : f.mayRun (.loop g.epoch) = true)
      (h : LoopRun respond g { f with current := some (.loop g.epoch) } f') :
      Stepped respond f (.run (.loop g.epoch) wake) f'
  | watched {g : Generation} {wake : Wake} {f' : Feed} (hg : g ∈ f.generations)
      (hm : f.mayRun (.watch g.epoch) = true)
      (h : WatchRun respond g.epoch { f with current := some (.watch g.epoch) } f') :
      Stepped respond f (.run (.watch g.epoch) wake) f'
  | reconnectBegan {n : Nat} {r : Reconnect} (hr : f.reconnects[n]? = some r)
      (hm : f.mayRun (.reconnect n) = true) (hp : r.phase = .waiting) :
      Stepped respond f (.run (.reconnect n) .first)
        ({ f with current := some (.reconnect n) }.beginReconnect respond n r)
  | reconnectEnded {n : Nat} {r : Reconnect} {deadline : Duration} {epoch : Nat}
      (hr : f.reconnects[n]? = some r) (hm : f.mayRun (.reconnect n) = true)
      (hp : r.phase = .asleep deadline epoch) :
      Stepped respond f (.run (.reconnect n) .elapsed)
        ({ f with current := some (.reconnect n) }.endReconnect respond n epoch r)
  | disconnectBegan {n : Nat} {d : Disconnect} (hd : f.disconnects[n]? = some d)
      (hp : d.phase = .waiting) :
      Stepped respond f (.run (.disconnect n) .first)
        ({ f with current := some (.disconnect n) }.beginDisconnect respond n)
  | disconnectJoined {n : Nat} {d : Disconnect} {epoch : Nat} {deadline : Duration}
      (hd : f.disconnects[n]? = some d) (hp : d.phase = .joining epoch deadline)
      (he : { f with current := some (.disconnect n) }.loopEnded epoch = true) :
      Stepped respond f (.run (.disconnect n) .joined)
        ({ f with current := some (.disconnect n) }.endDisconnect respond n)
  | disconnectAbandoned {n : Nat} {d : Disconnect} {epoch : Nat} {deadline : Duration}
      (hd : f.disconnects[n]? = some d) (hp : d.phase = .joining epoch deadline) :
      Stepped respond f (.run (.disconnect n) .elapsed)
        ({ f with current := some (.disconnect n) }.abandonDisconnect respond n epoch)
  | refreshed {n : Nat} {wake : Wake} {f' : Feed}
      (hb : { f with current := some (.refresh n) }.Busy f') :
      Stepped respond f (.run (.refresh n) wake) f'
  | ticked {now : Duration} (h : f.now ≤ now) :
      Stepped respond f (.tick now) { f with now, current := none }
  | reconnectGivenUp {n : Nat} (h : (f.reconnects[n]?).any (fun r => !r.scheduled) = true) :
      Stepped respond f (.giveUp (.reconnect n))
        { f with
          current := none
          reconnects := f.reconnects.modify n fun r => { r with aborted := true } }
  | disconnectGivenUp {n : Nat} :
      Stepped respond f (.giveUp (.disconnect n))
        { f with
          current := none
          disconnects := f.disconnects.modify n fun d => { d with aborted := true } }

/-- What a reconnect comes to when it runs. -/
lemma stepped_reconnect {n : Nat} {r : Reconnect} {wake : Wake} (hr : f.reconnects[n]? = some r)
    (hm : f.mayRun (.reconnect n) = true)
    (hs : { f with current := some (.reconnect n) }.stepReconnect respond n r wake = some f') :
    Stepped respond f (.run (.reconnect n) wake) f' := by
  unfold stepReconnect at hs
  split at hs
  · split at hs
    · next h => exact Option.some.inj hs ▸ .reconnectBegan hr hm h
    · exact absurd hs (by simp)
  · split at hs
    · next h =>
      split at hs
      · exact Option.some.inj hs ▸ .reconnectEnded hr hm h
      · exact absurd hs (by simp)
    · exact absurd hs (by simp)
  · exact absurd hs (by simp)

/-- What a disconnect comes to when it runs. -/
lemma stepped_disconnect {n : Nat} {d : Disconnect} {wake : Wake}
    (hd : f.disconnects[n]? = some d)
    (hs : { f with current := some (.disconnect n) }.stepDisconnect respond n d wake = some f') :
    Stepped respond f (.run (.disconnect n) wake) f' := by
  unfold stepDisconnect at hs
  split at hs
  · split at hs
    · next h => exact Option.some.inj hs ▸ .disconnectBegan hd h
    · exact absurd hs (by simp)
  · split at hs
    · next h =>
      split at hs
      · next he => exact Option.some.inj hs ▸ .disconnectJoined hd h he
      · exact absurd hs (by simp)
    · exact absurd hs (by simp)
  · split at hs
    · next h =>
      split at hs
      · exact Option.some.inj hs ▸ .disconnectAbandoned hd h
      · exact absurd hs (by simp)
    · exact absurd hs (by simp)
  · exact absurd hs (by simp)

/-- What a task comes to when it runs. -/
lemma stepped_task (hf : f.WellFormed may) {task : Task} {wake : Wake}
    (hs : f.runTask respond task wake = some f') : Stepped respond f (.run task wake) f' := by
  unfold runTask at hs
  split at hs
  case isFalse => exact absurd hs (by simp)
  case isTrue hm =>
    cases task with
    | loop epoch =>
      obtain ⟨g, hg, hs⟩ := Option.bind_eq_some_iff.1 hs
      obtain ⟨hmem, rfl⟩ := hf.generation?_eq_some_iff.1 hg
      have huniq : ∀ k ∈ f.generations, k.epoch = g.epoch → k = g :=
        fun k hk he => hf.eq_of_epoch_eq hk hmem he
      exact .looped hmem hm (loopRun_of_stepLoop (by exact huniq) hs)
    | watch epoch =>
      obtain ⟨g, hg, hs⟩ := Option.bind_eq_some_iff.1 hs
      obtain ⟨hmem, rfl⟩ := hf.generation?_eq_some_iff.1 hg
      exact .watched hmem hm (watchRun_of_stepWatch hs)
    | reconnect number =>
      obtain ⟨r, hr, hs⟩ := Option.bind_eq_some_iff.1 hs
      exact stepped_reconnect hr hm hs
    | disconnect number =>
      obtain ⟨d, hd, hs⟩ := Option.bind_eq_some_iff.1 hs
      exact stepped_disconnect hd hs
    | refresh number => exact .refreshed (busy_stepRefresh hs)

/-- What a step comes to. -/
theorem stepped_of_step? (hf : f.WellFormed may) {depth : Nat} {event : Event}
    (hs : f.step? depth event = some f') : Stepped (Feed.respond depth) f event f' := by
  cases event with
  | call call => exact Option.some.inj hs ▸ .called call
  | run task wake => exact stepped_task hf hs
  | tick now =>
    simp only [step?] at hs
    split at hs
    · next h => exact Option.some.inj hs ▸ .ticked h
    · exact absurd hs (by simp)
  | giveUp task =>
    simp only [step?, Feed.giveUp] at hs
    split at hs
    · split at hs
      · next h => exact Option.some.inj hs ▸ .reconnectGivenUp h
      · exact absurd hs (by simp)
    · split at hs
      · exact Option.some.inj hs ▸ .disconnectGivenUp
      · exact absurd hs (by simp)
    · exact absurd hs (by simp)

/-! ### Elementary steps -/

namespace WellFormed

/-- After operations, the read loop of an epoch is where it was before. -/
lemma loop_of_later (h' : f'.WellFormed may) (hl : f.Later f') {e : Nat} {phase : LoopPhase}
    (hmem : (e, phase) ∈ f.loops) : ∀ g ∈ f'.generations, g.epoch = e → g.loop = phase := by
  intro k hk he
  obtain ⟨g, hg, heq⟩ := List.mem_map.1 hmem
  obtain ⟨hge, hgl⟩ := Prod.mk.inj heq
  obtain ⟨g', hg', hgg'⟩ := hl.generations g hg
  rw [h'.eq_of_epoch_eq hk hg' (by rw [he, hgg'.epoch, hge]), hgg'.loop, hgl]

/-- After operations, the read loop of an epoch has got no further than before. -/
lemma rank_of_later (h' : f'.WellFormed may) (hl : f.Later f') {e r : Nat} {phase : LoopPhase}
    (hmem : (e, phase) ∈ f.loops) (hr : phase.rank ≤ r) :
    ∀ g ∈ f'.generations, g.epoch = e → g.loop.rank ≤ r := by
  intro g hg he
  rw [h'.loop_of_later hl hmem g hg he]
  exact hr

/-- The phase of a guardian has no part in the bookkeeping. -/
lemma setWatch (h : f.WellFormed may) (e : Nat) (phase : WatchPhase) :
    (f.setWatch e phase).WellFormed may :=
  h.changeGeneration (fun _ => rfl) (fun _ => ⟨rfl, rfl, rfl⟩) (fun _ _ _ => id)
    (fun _ _ _ => id) fun g hg he s hs => he ▸ h.session g hg s hs

/-- A read loop whose turn it is has begun once its step is over. -/
lemma setCurrentLoop (h : f'.WellFormed may) {g : Generation} (hg : g ∈ f'.generations)
    (hw : g.loop ≠ .waiting) :
    { f' with current := some (.loop g.epoch) }.WellFormed may := by
  refine h.setCurrent fun e he => ?_
  injection he with he
  injection he with he
  exact ⟨g, hg, he, hw⟩

/-- A reconnect that is given up keeps the bookkeeping. -/
lemma giveUpReconnect (h : f.WellFormed may) (n : Nat) :
    { f with reconnects := f.reconnects.modify n fun r => { r with aborted := true } }.WellFormed
      may := by
  refine h.setReconnects h.claim fun m r hr t e hp => ?_
  rw [List.getElem?_modify] at hr
  obtain ⟨r', hr', rfl⟩ := Option.map_eq_some_iff.1 hr
  exact .inl ⟨r', hr', by split at hp <;> exact hp⟩

/-- A disconnect that is given up keeps the bookkeeping: it still waits for its read loop. -/
lemma giveUpDisconnect (h : f.WellFormed may) (n : Nat) :
    { f with disconnects := f.disconnects.modify n fun d => { d with aborted := true } }.WellFormed
      may := by
  have hphase : ∀ (m : Nat) d, f.disconnects[m]? = some d →
      ∃ d', (f.disconnects.modify n fun d => { d with aborted := true })[m]? = some d' ∧
        d'.phase = d.phase := by
    intro m d hd
    rw [List.getElem?_modify, hd]
    refine ⟨_, rfl, ?_⟩
    split <;> rfl
  refine { h with
    released := fun g hg hs => (h.released g hg hs).mono (Nat.le_refl _) ?_
    joining := fun m d hd e t hp => ?_ }
  · rintro ⟨m, d, t, hd, hp⟩
    obtain ⟨d', hd', hpd⟩ := hphase m d hd
    exact ⟨m, d', t, hd', hpd.trans hp⟩
  · rw [List.getElem?_modify] at hd
    obtain ⟨d₀, hd₀, rfl⟩ := Option.map_eq_some_iff.1 hd
    have hp₀ : d₀.phase = .joining e t := by split at hp <;> exact hp
    exact (h.joining m d₀ hd₀ e t hp₀).mono (Nat.le_refl _) rfl

end WellFormed

/-- The read loop of a generation that has gone quiet is past connecting. -/
lemma rank_of_isStale (hf : f.WellFormed may)
    (h : ∀ e, f.installed = some e → ∃ g ∈ f.generations, g.epoch = e ∧ 2 ≤ g.loop.rank) {e : Nat}
    (hs : f.isStale e = true) : ∀ g ∈ f.generations, g.epoch = e → 2 ≤ g.loop.rank := by
  intro g hg hge
  have hgen := hf.generation?_eq_some_iff.2 ⟨hg, hge⟩
  unfold isStale at hs
  rcases Bool.or_eq_true _ _ ▸ hs with hs | hs
  · -- The read loop has ended, and nobody has aborted it since it is held.
    obtain ⟨hslot, hended⟩ : f.slot = some e ∧ f.loopEnded e = true := by simpa using hs
    have hab := (hf.held g hg (hge ▸ hslot)).loop
    have hfin : g.loop = .finished := by simpa [loopEnded, hgen, hab] using hended
    rw [hfin]
    decide
  · -- Its session has been silent for too long, so it has been opened.
    cases hsession : f.session? with
    | none => simp [hsession] at hs
    | some s =>
      have hse : s.epoch = e := by
        by_contra hne
        simp [hsession, hne] at hs
      obtain ⟨i, hi, hof⟩ := Option.bind_eq_some_iff.1 hsession
      obtain ⟨k, hk, hks⟩ := Option.bind_eq_some_iff.1 hof
      obtain ⟨hkmem, rfl⟩ := hf.generation?_eq_some_iff.1 hk
      obtain ⟨j, hj, hje, hrank⟩ := h _ hi
      have hke : k.epoch = e := (hf.session k hkmem s hks).symm.trans hse
      rw [hf.eq_of_epoch_eq hg hj (by rw [hge, hje, hke])]
      exact hrank

/-- A read loop that has not begun keeps the bookkeeping as well: it is not on record as the one
that ran last before it has. -/
lemma LoopRun.upkeep_waiting {g : Generation}
    (hs : LoopRun respond g { f with current := some (.loop g.epoch) } f') (hf : f.WellFormed may)
    (hg : g ∈ f.generations) (hw : g.loop = .waiting) : f'.WellFormed may := by
  have hturn : ∀ phase, phase ≠ .waiting → (f.setLoop g.epoch phase).WellFormed may →
      { f.setLoop g.epoch phase with current := some (.loop g.epoch) }.WellFormed may := by
    intro phase hp hnext
    refine hnext.setCurrent fun e he => ?_
    injection he with he
    injection he with he
    exact ⟨_, List.mem_map_of_mem hg, by simp [he], by simpa using hp⟩
  cases hs with
  | began =>
    have hb : f.Busy (f.setLoop g.epoch (.connecting (f.after f.settings.connectTimeout))) :=
      (Busy.refl f).setLoop fun k hk he => by
        rw [hf.eq_of_epoch_eq hk hg he, hw]
        exact Nat.zero_le _
    have hnext := hturn _ (by simp) (hf.busy hb)
    exact hnext.congr (hnext.keeps.congr rfl) rfl
  | ended => exact hturn _ (by simp) (hf.busy (busy_finish g.epoch))
  | worked h => exact absurd hw h
  | opened h => rw [hw] at h; exact absurd h (by simp)
  | failed h => exact absurd hw h
  | published h => rw [hw] at h; exact absurd h (by simp)

section Orderly

variable (hr : Orderly may respond)

include hr

/-! ### Read loops and guardians -/

/-- A lost connection keeps the bookkeeping. -/
lemma upkeep_connectionLost (hf : f.WellFormed may) (epoch : Nat) (retries : UInt32) :
    (f.connectionLost respond epoch retries).WellFormed may := by
  rcases connectionLost_cases respond epoch retries f with ⟨-, he⟩ | ⟨-, -, g, ht, he⟩
  · rwa [he]
  · have hg := (ht.upkeep hr hf).1
    rw [he]
    rcases scheduleReconnect_cases epoch retries g with ⟨-, hs⟩ | ⟨hge, -, hs⟩
    · rwa [hs]
    · rw [hs]
      exact hg.appendReconnect (Nat.le_of_eq hge.symm) rfl

/-- A publication of an event keeps the bookkeeping. -/
lemma upkeep_publishEvent (hf : f.WellFormed may) (event : RoutedEvent) :
    (publishEvent respond event f).2.WellFormed may ∧
      f.Later (publishEvent respond event f).2 := by
  have hn : (f.note (.eventPublished event)).WellFormed may := hf.note _
  obtain ⟨hg, hl⟩ := (framed_upkeep may).publishEvent hr hn
  refine ⟨hg, Later.trans ?_ hl⟩
  exact Later.congr rfl rfl rfl rfl rfl (.inl rfl) (List.suffix_cons _ _) rfl rfl rfl

/-- A step of a read loop that has begun keeps the bookkeeping. -/
lemma LoopRun.upkeep {g : Generation} (hs : LoopRun respond g f f') (hf : f.WellFormed may)
    (hg : g ∈ f.generations) (hw : g.loop ≠ .waiting) : f'.WellFormed may := by
  have hmem : (g.epoch, g.loop) ∈ f.loops := List.mem_map_of_mem hg
  cases hs with
  | began h => exact absurd h hw
  | ended => exact hf.busy (busy_finish _)
  | worked _ _ hb => exact hf.busy hb
  | @opened deadline h socket =>
    obtain ⟨k, hb, ⟨hl, -⟩, hk⟩ := loopConnected_cases respond g.epoch socket f
    have hkf := hf.busy hb
    have hrank : g.loop.rank ≤ 2 := by rw [h]; exact Nat.le_succ _
    have hkrank := hkf.rank_of_later (.refl k) (hl.symm ▸ hmem) hrank
    rcases hk with ⟨-, he⟩ | ⟨-, -, he⟩ | ⟨-, -, -, j, ht, he⟩
    · rw [he]
      exact hkf.busy (busy_beginClose socket hkrank)
    · rw [he]
      have hki : { k.install g.epoch with installed := none }.WellFormed may :=
        (hkf.install g.epoch).uninstall
      exact hki.busy (busy_beginClose socket hkrank)
    · have hki : (k.install g.epoch).WellFormed may := hkf.install _
      obtain ⟨hj, hlj⟩ := ht.upkeep hr hki
      rw [he]
      exact hj.busy ((busy_log _ _ _).setLoop (hj.rank_of_later hlj (hl.symm ▸ hmem) hrank))
  | failed _ _ error =>
    obtain ⟨k, hb, -, he⟩ := failLoop_eq respond g.epoch error f
    rw [he]
    exact upkeep_connectionLost hr (hf.busy hb) _ _
  | @published socket interval deadline k h hb hl event =>
    obtain ⟨hp, hlater⟩ := upkeep_publishEvent hr (hf.busy hb) event
    have hrank : g.loop.rank ≤ 2 := by rw [h]; exact Nat.le_refl _
    exact hp.busy ((Busy.refl _).setLoop (hp.rank_of_later hlater (hl.symm ▸ hmem) hrank))

/-- A step of a guardian keeps the bookkeeping. -/
lemma WatchRun.upkeep {epoch : Nat} (hs : WatchRun respond epoch f f') (hf : f.WellFormed may) :
    f'.WellFormed may := by
  cases hs with
  | ended => exact hf.setWatch _ _
  | slept => exact hf.setWatch _ _
  | reported => exact upkeep_connectionLost hr (hf.setWatch _ _) _ _

/-! ### Reconnects and disconnects -/

/-- The second part of a reconnect keeps the bookkeeping. -/
lemma upkeep_endReconnect (hf : f.WellFormed may) (n epoch : Nat) (r : Reconnect) :
    (f.endReconnect respond n epoch r).WellFormed may := by
  have hn : (f.setReconnect n .finished).WellFormed may := hf.setReconnect (by simp) n
  rcases endReconnect_cases respond n epoch r f with ⟨-, he⟩ | ⟨-, -, he⟩
  · rwa [he]
  · rw [he]
    exact ((started_restart respond _ _).upkeep hr hn).1

/-- A disconnect whose read loop has ended keeps the bookkeeping. -/
lemma upkeep_disconnectJoined {n : Nat} {d : Disconnect} {epoch : Nat} {deadline : Duration}
    (hf : f.WellFormed may) (hcur : f.current ≠ some (.loop epoch))
    (hd : f.disconnects[n]? = some d) (hp : d.phase = .joining epoch deadline)
    (he : f.loopEnded epoch = true) : (f.endDisconnect respond n).WellFormed may := by
  refine upkeep_endDisconnect hr n hf ⟨d, hd, fun e t hj g hg hge => ?_⟩
  obtain ⟨rfl, -⟩ : epoch = e ∧ deadline = t := by simpa [hp] using hj
  unfold loopEnded at he
  rw [hf.generation?_eq_some_iff.2 ⟨hg, hge⟩] at he
  rcases by simpa [hcur] using he with hfin | hab
  · exact .inr hfin
  · exact .inl hab

omit hr in
/-- A disconnect that aborts its read loop comes to its end from there. -/
lemma abandonDisconnect_eq {n : Nat} {d : Disconnect} {epoch : Nat} {deadline : Duration}
    (hf : f.WellFormed may) (hd : f.disconnects[n]? = some d)
    (hp : d.phase = .joining epoch deadline) :
    ∃ k, f.abandonDisconnect respond n epoch = k.endDisconnect respond n ∧ k.WellFormed may ∧
      f.Later k ∧ ∀ g ∈ k.generations, g.epoch = epoch → g.loopAborted = true := by
  have hlog := hf.log .warn "Read loop did not close in time, aborting"
  refine ⟨_, rfl, (hlog _).abandon (hf.joining n d hd epoch deadline hp).past, ?_, ?_⟩
  · refine (later_of_engine (engine_log f _ _ _)).trans { Later.refl _ with
      generations := fun g hg => ⟨_, List.mem_map_of_mem hg, ?_⟩ }
    split
    · exact ⟨rfl, rfl, rfl, rfl, fun _ => rfl, id, id⟩
    · exact .refl g
  · intro g hg he
    obtain ⟨g₀, -, rfl⟩ := List.mem_map.1 hg
    split
    · rfl
    · next hne => exact absurd he (by rwa [if_neg hne])

/-- The read loop that a disconnect waits for has been aborted, and it has been said so. -/
def abandonLoop (epoch : Nat) (f : Feed) : Feed :=
  (f.log .warn "Read loop did not close in time, aborting"
    [("timeout_ms", toString f.settings.shutdownTimeout.millisCounter.toNat)]).changeGeneration
      epoch fun g => { g with loopAborted := true }

omit hr in
/-- The read loop that a disconnect waits for may be aborted. -/
lemma WellFormed.abandonLoop {n : Nat} {d : Disconnect} {epoch : Nat} {deadline : Duration}
    (hf : f.WellFormed may) (hd : f.disconnects[n]? = some d)
    (hp : d.phase = .joining epoch deadline) : (f.abandonLoop epoch).WellFormed may := by
  have hlog := hf.log .warn "Read loop did not close in time, aborting"
    [("timeout_ms", toString f.settings.shutdownTimeout.millisCounter.toNat)]
  exact hlog.abandon (hf.joining n d hd epoch deadline hp).past

/-- A disconnect that aborts its read loop keeps the bookkeeping. -/
lemma upkeep_abandonDisconnect {n : Nat} {d : Disconnect} {epoch : Nat} {deadline : Duration}
    (hf : f.WellFormed may) (hd : f.disconnects[n]? = some d)
    (hp : d.phase = .joining epoch deadline) :
    (f.abandonDisconnect respond n epoch).WellFormed may := by
  obtain ⟨k, he, hk, hl, hab⟩ := abandonDisconnect_eq hf hd hp
  rw [he]
  refine upkeep_endDisconnect hr n hk ⟨d, hl.disconnects n d hd, fun e t hj g hg hge => ?_⟩
  obtain ⟨rfl, -⟩ : epoch = e ∧ deadline = t := by simpa [hp] using hj
  exact .inl (hab g hg hge)

/-! ### Steps -/

/-- A call of the caller keeps the bookkeeping, if a subscriber that it brings in keeps the
conduct. -/
lemma upkeep_doCall {call : Call} (hf : f.WellFormed may) (hc : (Event.call call).Keeps may) :
    (f.doCall respond call).WellFormed may := by
  cases call with
  | start retries => exact ((started_start respond retries f).upkeep hr hf).1
  | stop => exact (upkeep_stop hr hf).1
  | reconnect delay retries => exact hf.appendReconnect hf.claim rfl
  | disconnect => exact hf.addDisconnect
  | subscribe target name handler =>
    have hk : (f.subscribe target name handler).Keeps may := hf.keeps.subscribe target name hc
    exact hf.of_engine (engine_subscribe f target name handler) hk
  | unsubscribe handle =>
    exact hf.of_engine (engine_unsubscribe f handle)
      (hf.keeps.congr (subscribers_unsubscribe f handle))
  | publishStatus status =>
    have hn : (f.note (.statusPublished status)).WellFormed may := hf.note _
    exact ((framed_upkeep may).publishStatus hr hn).1
  | publishEvent event => exact (upkeep_publishEvent hr hf event).1
  | release => exact hf.abortPending.haltTasks

/-- Whatever an event comes to keeps the bookkeeping. -/
lemma Stepped.upkeep {event : Event} (hs : Stepped respond f event f') (hf : f.WellFormed may)
    (he : event.Keeps may) : f'.WellFormed may := by
  cases hs with
  | called call => exact upkeep_doCall hr hf.noTurn he
  | @looped g _ _ hg _ h =>
    by_cases hw : g.loop = .waiting
    · exact h.upkeep_waiting hf hg hw
    · exact h.upkeep hr (hf.setCurrentLoop hg hw) hg hw
  | watched _ _ h => exact h.upkeep hr (hf.turn _ (by simp))
  | reconnectBegan => exact (upkeep_beginReconnect hr _ _ (hf.turn _ (by simp))).1
  | reconnectEnded => exact upkeep_endReconnect hr (hf.turn _ (by simp)) _ _ _
  | disconnectBegan hd hp => exact (upkeep_beginDisconnect hr _ (hf.turn _ (by simp)) ⟨_, hd, hp⟩).1
  | disconnectJoined hd hp hl =>
    exact upkeep_disconnectJoined hr (hf.turn _ (by simp)) (by simp) hd hp hl
  | disconnectAbandoned hd hp => exact upkeep_abandonDisconnect hr (hf.turn _ (by simp)) hd hp
  | refreshed hb => exact (hf.turn (.refresh _) (by simp)).busy hb
  | ticked => exact hf.noTurn.congr (hf.noTurn.keeps.congr rfl) rfl
  | reconnectGivenUp => exact hf.noTurn.giveUpReconnect _
  | disconnectGivenUp => exact hf.noTurn.giveUpDisconnect _

end Orderly

/-- Every step keeps the bookkeeping, if a subscriber that it brings in keeps the conduct. -/
theorem wellFormed_step {depth : Nat} {event : Event} (hf : f.WellFormed may)
    (he : event.Keeps may) (hs : f.step? depth event = some f') : f'.WellFormed may :=
  (stepped_of_step? hf hs).upkeep (orderly_respond may depth) hf he

/-! ### What a step leaves alone -/

/-- The task that has run with an event, if one has. -/
def Event.task? : Event → Option Task
  | .run task _ => some task
  | _ => none

/-- Epochs have passed, generations have gone on, and reconnects that had begun have gone no further
than to their end. -/
structure Onward (f g : Feed) : Prop where
  epoch : f.epoch ≤ g.epoch
  generations : ∀ k ∈ f.generations, ∃ k' ∈ g.generations, k.Aged k'
  reconnects : ∀ (n : Nat) r, f.reconnects[n]? = some r → r.phase ≠ .waiting →
    ∃ r', g.reconnects[n]? = some r' ∧ (r'.phase = r.phase ∨ r'.phase = .finished)

lemma Onward.refl (f : Feed) : Onward f f :=
  ⟨Nat.le_refl _, fun k hk => ⟨k, hk, .refl k⟩, fun _ r hr _ => ⟨r, hr, .inl rfl⟩⟩

lemma Onward.trans {h : Feed} (hf : Onward f g) (hg : Onward g h) : Onward f h where
  epoch := Nat.le_trans hf.epoch hg.epoch
  generations k hk := by
    obtain ⟨k₁, hk₁, h₁⟩ := hf.generations k hk
    obtain ⟨k₂, hk₂, h₂⟩ := hg.generations k₁ hk₁
    exact ⟨k₂, hk₂, h₁.trans h₂⟩
  reconnects n r hr hp := by
    obtain ⟨r₁, hr₁, h₁⟩ := hf.reconnects n r hr hp
    have hp₁ : r₁.phase ≠ .waiting := by
      rcases h₁ with h₁ | h₁
      · exact h₁ ▸ hp
      · simp [h₁]
    obtain ⟨r₂, hr₂, h₂⟩ := hg.reconnects n r₁ hr₁ hp₁
    refine ⟨r₂, hr₂, ?_⟩
    rcases h₂ with h₂ | h₂
    · rw [h₂]
      exact h₁
    · exact .inr h₂

/-- On top of that, the turn is the same task's, and no reconnect has been scheduled. -/
structure Unclaimed (f g : Feed) : Prop extends Onward f g where
  current : g.current = f.current
  claim : g.claim = f.claim

/-- Nothing has happened to epochs, generations, turns, claims and reconnects. -/
lemma Unclaimed.of_eq (he : (g.epoch, g.generations, g.current, g.claim, g.reconnects) =
    (f.epoch, f.generations, f.current, f.claim, f.reconnects)) : Unclaimed f g := by
  simp only [Prod.mk.injEq] at he
  obtain ⟨epoch, generations, current, claim, reconnects⟩ := he
  refine { epoch := Nat.le_of_eq epoch.symm, generations := fun k hk => ?_,
           reconnects := fun _ r hr _ => ?_, current, claim }
  · exact ⟨k, generations ▸ hk, .refl k⟩
  · exact ⟨r, reconnects ▸ hr, .inl rfl⟩

lemma Unclaimed.trans {h : Feed} (hf : Unclaimed f g) (hg : Unclaimed g h) : Unclaimed f h :=
  { hf.toOnward.trans hg.toOnward with
    current := hg.current.trans hf.current
    claim := hg.claim.trans hf.claim }

/-- Operations schedule no reconnect. -/
lemma Later.unclaimed (h : f.Later g) : Unclaimed f g where
  epoch := h.epoch
  generations k hk := (h.generations k hk).imp fun _ hk' => ⟨hk'.1, hk'.2.aged⟩
  reconnects n r hr _ := by
    obtain ⟨r', hr', hp⟩ := h.reconnects n r hr
    exact ⟨r', hr', .inl hp⟩
  current := h.current
  claim := h.claim

/-- Work of read loops schedules no reconnect. -/
lemma Busy.unclaimed (hb : f.Busy g) : Unclaimed f g := by
  obtain ⟨c, hc, -, hcp⟩ := hb.generations
  obtain ⟨_, _, _, _, _, rfl⟩ := hb.rest
  exact { Unclaimed.of_eq (f := f) rfl with
    generations := fun k hk => ⟨c k, hc ▸ List.mem_map_of_mem hk, (hcp k hk).aged⟩ }

/-- A guardian that goes on schedules no reconnect. -/
lemma unclaimed_setWatch (e : Nat) (phase : WatchPhase) : Unclaimed f (f.setWatch e phase) where
  epoch := Nat.le_refl _
  generations k hk := by
    refine ⟨_, List.mem_map_of_mem hk, ?_⟩
    split
    · exact ⟨rfl, Nat.le_refl _, id, id⟩
    · exact .refl k
  reconnects _ r hr _ := ⟨r, hr, .inl rfl⟩
  current := rfl
  claim := rfl

/-- A reconnect begins or comes to its end. -/
lemma unclaimed_setReconnect {n : Nat} {phase : ReconnectPhase}
    (h : phase = .finished ∨ ∀ r, f.reconnects[n]? = some r → r.phase = .waiting) :
    Unclaimed f (f.setReconnect n phase) where
  epoch := Nat.le_refl _
  generations k hk := ⟨k, hk, .refl k⟩
  reconnects m r hr hp := by
    by_cases hnm : n = m
    · subst hnm
      refine ⟨{ r with phase }, by simp [setReconnect, hr], .inr ?_⟩
      rcases h with h | h
      · exact h
      · exact absurd (h r hr) hp
    · exact ⟨r, by simpa [setReconnect, List.getElem?_modify, hnm] using hr, .inl rfl⟩
  current := rfl
  claim := rfl

/-- Nothing more has happened, or a reconnect has been scheduled for the current epoch. -/
inductive Schedules (f : Feed) : Feed → Prop
  | no : Schedules f f
  | yes (h : f.claim < f.epoch) (retries : UInt32) : Schedules f
      { f with
        claim := f.epoch
        pending := some f.reconnects.length
        reconnects := f.reconnects ++ [{ scheduled := true, delay := none, retries }] }

/-- What schedules no reconnect schedules one at most. -/
lemma Unclaimed.course (h : Unclaimed f g) : ∃ k, Unclaimed f k ∧ Schedules k g :=
  ⟨g, h, .no⟩

/-- A reconnect is scheduled for the current epoch at most. -/
lemma schedules_scheduleReconnect (epoch : Nat) (retries : UInt32) (f : Feed) :
    Schedules f (f.scheduleReconnect epoch retries) := by
  rcases scheduleReconnect_cases epoch retries f with ⟨-, hs⟩ | ⟨rfl, hc, hs⟩
  · rw [hs]
    exact .no
  · rw [hs]
    exact .yes hc retries

/-- A reconnect that is scheduled leaves the turn to the task that reports the loss. -/
lemma Schedules.current (h : Schedules f g) : g.current = f.current := by
  cases h <;> rfl

/-- A reconnect that is scheduled leaves the others where they are. -/
lemma Schedules.onward (h : Schedules f g) : Onward f g := by
  cases h with
  | no => exact .refl f
  | yes =>
    refine ⟨Nat.le_refl _, fun k hk => ⟨k, hk, .refl k⟩, fun n r hr _ => ⟨r, ?_, .inl rfl⟩⟩
    exact (List.getElem?_append_left (List.getElem?_eq_some_iff.1 hr).1).trans hr

section Orderly

variable (hr : Orderly may respond)

include hr

/-- The report of a lost connection schedules a reconnect at most. -/
lemma course_connectionLost (hf : f.WellFormed may) (epoch : Nat) (retries : UInt32) :
    ∃ k, Unclaimed f k ∧ Schedules k (f.connectionLost respond epoch retries) := by
  rcases connectionLost_cases respond epoch retries f with ⟨-, he⟩ | ⟨-, -, k, ht, he⟩
  · rw [he]
    exact Unclaimed.course (.of_eq rfl)
  · rw [he]
    exact ⟨k, (ht.upkeep hr hf).2.unclaimed, schedules_scheduleReconnect epoch retries k⟩

/-- The step of a read loop schedules a reconnect at most. -/
lemma LoopRun.course {g : Generation} (hs : LoopRun respond g f f')
    (hf : g.loop ≠ .waiting → f.WellFormed may) (hg : g ∈ f.generations)
    (huniq : ∀ k ∈ f.generations, k.epoch = g.epoch → k = g) :
    ∃ k, Unclaimed f k ∧ Schedules k f' := by
  have hmem : (g.epoch, g.loop) ∈ f.loops := List.mem_map_of_mem hg
  cases hs with
  | began hw =>
    have hn : Unclaimed f (f.note .connectBegun) := .of_eq rfl
    have hb : (f.note .connectBegun).Busy (f.beginLoop g.epoch) :=
      (Busy.refl _).setLoop fun k hk he => by
        rw [huniq k hk he, hw]
        exact Nat.zero_le _
    exact (hn.trans hb.unclaimed).course
  | ended => exact (busy_finish g.epoch).unclaimed.course
  | worked _ _ hb => exact hb.unclaimed.course
  | opened h socket =>
    obtain ⟨k, hb, ⟨hl, -⟩, hk⟩ := loopConnected_cases respond g.epoch socket f
    have hkf := (hf (by simp [h])).busy hb
    have hrank : g.loop.rank ≤ 2 := by rw [h]; exact Nat.le_succ _
    have hkrank := hkf.rank_of_later (.refl k) (hl.symm ▸ hmem) hrank
    refine (hb.unclaimed.trans ?_).course
    rcases hk with ⟨-, he⟩ | ⟨-, -, he⟩ | ⟨-, -, -, j, ht, he⟩
    · rw [he]
      exact (busy_beginClose socket hkrank).unclaimed
    · have hinst : Unclaimed k { k.install g.epoch with installed := none } := .of_eq rfl
      have hclose : { k.install g.epoch with installed := none }.Busy
          ({ k.install g.epoch with installed := none }.beginClose g.epoch socket) :=
        busy_beginClose socket hkrank
      rw [he]
      exact hinst.trans hclose.unclaimed
    · have hi : (k.install g.epoch).WellFormed may := hkf.install _
      have hinst : Unclaimed k (k.install g.epoch) := .of_eq rfl
      obtain ⟨hj, hlj⟩ := ht.upkeep hr hi
      have hread : j.Busy ((j.log .info "Event stream connected"
          [epochField g.epoch, ("url", j.request.url)]).awaitFrame g.epoch socket) :=
        (busy_log _ _ _).setLoop (hj.rank_of_later hlj (hl.symm ▸ hmem) hrank)
      rw [he]
      exact (hinst.trans hlj.unclaimed).trans hread.unclaimed
  | failed h _ error =>
    obtain ⟨k, hb, -, he⟩ := failLoop_eq respond g.epoch error f
    obtain ⟨j, hj, hsch⟩ := course_connectionLost hr ((hf h).busy hb) g.epoch f.retry.attempt
    exact ⟨j, hb.unclaimed.trans hj, he ▸ hsch⟩
  | @published socket interval deadline k h hb hl event =>
    have hrank : g.loop.rank ≤ 2 := by rw [h]; exact Nat.le_refl _
    obtain ⟨hp, hlater⟩ := upkeep_publishEvent hr ((hf (by simp [h])).busy hb) event
    have hread : (publishEvent respond event k).2.Busy
        ((publishEvent respond event k).2.awaitFrame g.epoch socket) :=
      (Busy.refl _).setLoop (hp.rank_of_later hlater (hl.symm ▸ hmem) hrank)
    exact ((hb.unclaimed.trans hlater.unclaimed).trans hread.unclaimed).course

/-- The step of a guardian schedules a reconnect at most. -/
lemma WatchRun.course {epoch : Nat} (hs : WatchRun respond epoch f f') (hf : f.WellFormed may) :
    ∃ k, Unclaimed f k ∧ Schedules k f' := by
  cases hs with
  | ended => exact (unclaimed_setWatch _ _).course
  | slept => exact (unclaimed_setWatch _ _).course
  | reported =>
    have hset : Unclaimed f (f.setWatch epoch .finished) := unclaimed_setWatch _ _
    obtain ⟨k, hk, hsch⟩ := course_connectionLost hr (hf.setWatch epoch .finished) epoch 0
    exact ⟨k, hset.trans hk, hsch⟩

/-- A call of the caller leaves tasks where they are. -/
lemma later_doCall (hf : f.WellFormed may) (call : Call) : f.Later (f.doCall respond call) := by
  cases call with
  | start retries => exact ((started_start respond retries f).upkeep hr hf).2
  | stop => exact (upkeep_stop hr hf).2
  | reconnect delay retries => exact later_addReconnect delay retries f
  | disconnect => exact later_addDisconnect f
  | subscribe target name handler => exact later_of_engine (engine_subscribe f target name handler)
  | unsubscribe handle => exact later_of_engine (engine_unsubscribe f handle)
  | publishStatus status =>
    have hn : (f.note (.statusPublished status)).WellFormed may := hf.note _
    have hnote : f.Later (f.note (.statusPublished status)) :=
      Later.congr rfl rfl rfl rfl rfl (.inl rfl) (List.suffix_cons _ _) rfl rfl rfl
    exact hnote.trans ((framed_upkeep may).publishStatus hr hn).2
  | publishEvent event => exact (upkeep_publishEvent hr hf event).2
  | release => exact (later_abortPending f).trans (later_haltTasks _)

/-- A step leaves the turn to the task that has run, and it schedules a reconnect at most. -/
theorem Stepped.course {event : Event} (hs : Stepped respond f event f') (hf : f.WellFormed may) :
    ∃ k, Unclaimed { f with current := Event.task? event } k ∧ Schedules k f' := by
  cases hs with
  | called call =>
    exact (later_doCall hr hf.noTurn call).unclaimed.course
  | looped hg _ h =>
    exact h.course hr (fun hw => hf.setCurrentLoop hg hw) hg
      fun k hk he => hf.eq_of_epoch_eq hk hg he
  | @watched g _ _ _ _ h => exact h.course hr (hf.turn (.watch g.epoch) (by simp))
  | @reconnectBegan n r hn _ hp =>
    obtain ⟨-, k, phase, he, -, hl⟩ :=
      upkeep_beginReconnect hr n r (hf.turn (.reconnect n) (by simp))
    rw [he]
    refine (hl.unclaimed.trans (unclaimed_setReconnect (.inr fun r' hr' => ?_))).course
    obtain ⟨r₁, hr₁, hp₁⟩ := hl.reconnects n r hn
    rw [hr₁] at hr'
    rw [← Option.some.inj hr', hp₁, hp]
  | @reconnectEnded n r deadline epoch =>
    have hn : ({ f with current := some (.reconnect n) }.setReconnect n .finished).WellFormed may :=
      (hf.turn (.reconnect n) (by simp)).setReconnect (by simp) n
    have hend : Unclaimed { f with current := some (.reconnect n) }
        ({ f with current := some (.reconnect n) }.setReconnect n .finished) :=
      unclaimed_setReconnect (.inl rfl)
    rcases endReconnect_cases respond n epoch r { f with current := some (.reconnect n) } with
      ⟨-, he⟩ | ⟨-, -, he⟩
    · exact ⟨_, hend, he ▸ .no⟩
    · rw [he]
      exact Unclaimed.course (hend.trans ((started_restart respond _ _).upkeep hr hn).2.unclaimed)
  | disconnectBegan hd hp =>
    obtain ⟨-, k, phase, he, hl⟩ :=
      upkeep_beginDisconnect hr _ (hf.turn (.disconnect _) (by simp)) ⟨_, hd, hp⟩
    rw [he]
    exact Unclaimed.course (hl.unclaimed.trans (.of_eq rfl))
  | disconnectJoined =>
    obtain ⟨k, he, -, hl⟩ := endDisconnect_eq hr _ (hf.turn (.disconnect _) (by simp))
    rw [he]
    exact Unclaimed.course (hl.unclaimed.trans (.of_eq rfl))
  | @disconnectAbandoned n d epoch deadline hd hp =>
    obtain ⟨j, hj, hjf, hjl, -⟩ := abandonDisconnect_eq (hf.turn (.disconnect n) (by simp)) hd hp
    obtain ⟨k, he, -, hl⟩ := endDisconnect_eq hr n hjf
    rw [hj, he]
    exact Unclaimed.course ((hjl.trans hl).unclaimed.trans (.of_eq rfl))
  | refreshed hb => exact hb.unclaimed.course
  | ticked => exact Unclaimed.course (.of_eq rfl)
  | @reconnectGivenUp n =>
    have hup : Unclaimed { f with current := none }
        { f with
          current := none
          reconnects := f.reconnects.modify n fun r => { r with aborted := true } } := by
      refine ⟨⟨Nat.le_refl _, fun k hk => ⟨k, hk, .refl k⟩, fun m r hm _ => ?_⟩, rfl, rfl⟩
      refine ⟨_, by rw [List.getElem?_modify, hm]; rfl, .inl ?_⟩
      split <;> rfl
    exact hup.course
  | disconnectGivenUp => exact Unclaimed.course (.of_eq rfl)

/-- After a step it is the turn of the task that has run, and of no task after any other event. -/
lemma Stepped.current_eq {event : Event} (hs : Stepped respond f event f')
    (hf : f.WellFormed may) : f'.current = Event.task? event := by
  obtain ⟨k, hk, hsch⟩ := hs.course hr hf
  exact hsch.current.trans hk.current

/-- No step takes an epoch back. -/
lemma Stepped.onward {event : Event} (hs : Stepped respond f event f') (hf : f.WellFormed may) :
    Onward f f' := by
  obtain ⟨k, hk, hsch⟩ := hs.course hr hf
  have hfk : Onward f k := ⟨hk.epoch, hk.generations, hk.reconnects⟩
  exact hfk.trans hsch.onward

end Orderly

end EventFeed.Feed
