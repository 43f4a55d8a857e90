import EventFeed.Proofs.Feed.Alive

/-!
# Every step keeps a feed alive

Tasks keep a feed going as operations do. A read loop that fails and a guardian that finds it quiet
hand over to a reconnect, a reconnect hands over to the next generation, and a read loop that opens
a session changes nothing about who watches. From this it follows that a feed that has been started
and not halted can always be taken further: a task is there that nobody has aborted, and it can run,
at the latest when its time has come.
-/

namespace EventFeed.Feed

variable {may : Conduct} {respond : Respond} {f f' g : Feed}

/-! ### What a generation of the current epoch says about the status -/

/-- Background work of an epoch is live when the feed is not halted and the epoch is the current
one. -/
lemma isLive_iff {epoch : Nat} :
    f.isLive epoch = true ↔ f.status.isHalted = false ∧ f.epoch = epoch := by
  simp [isLive]

/-- While a generation of the current epoch is there, a feed that is neither halted nor has lost its
connection may still schedule a reconnect. -/
lemma Going.of_generation (h : f.Going) (hf : f.WellFormed may) {k : Generation}
    (hk : k ∈ f.generations) (he : k.epoch = f.epoch) (hh : f.status.isHalted = false)
    (hl : f.status ≠ .lostConnection) :
    (f.status = .initializing ∨ f.status = .connected) ∧ f.claim < f.epoch := by
  have hslot := hf.slot_of_epoch_eq hk he
  unfold Going at h
  cases hs : f.status <;> rw [hs] at h hh hl <;> dsimp only at h
  case initializing => exact ⟨.inl rfl, h.1⟩
  case connected => exact ⟨.inr rfl, h.1⟩
  case lostConnection => exact absurd rfl hl
  case reconnecting => rw [h.1] at hslot; exact absurd hslot (by simp)
  case notStarted => rw [h] at hslot; exact absurd hslot (by simp)
  all_goals first | exact h.elim | exact absurd hh (by decide)

/-- A guardian may come to its end where its epoch is over, or where the feed neither connects nor
is connected; otherwise it stays awake. -/
lemma Going.setWatch (h : f.Going) (hf : f.WellFormed may) {e : Nat} {phase : WatchPhase}
    (hp : phase ≠ .finished ∨ f.epoch ≠ e ∨ ¬ (f.status = .initializing ∨ f.status = .connected)) :
    (f.setWatch e phase).Going := by
  have hrun : (∃ g ∈ f.generations, f.slot = some g.epoch ∧ g.watch ≠ .finished) →
      (f.status = .initializing ∨ f.status = .connected) →
      ∃ g ∈ (f.setWatch e phase).generations, f.slot = some g.epoch ∧ g.watch ≠ .finished := by
    rintro ⟨g, hg, hs, hw⟩ hst
    refine ⟨_, List.mem_map_of_mem hg, ?_, ?_⟩
    · split <;> exact hs
    · split
      · next hge =>
        rcases hp with hp | hp | hp
        · exact hp
        · exact absurd ((hf.slot _ hs).1.symm.trans hge) hp
        · exact absurd hst hp
      · exact hw
  unfold Going at h ⊢
  have hstatus : (f.setWatch e phase).status = f.status := rfl
  rw [hstatus]
  cases hs : f.status <;> rw [hs] at h <;> dsimp only at h ⊢
  case initializing => exact ⟨h.1, hrun h.2 (.inl hs)⟩
  case connected => exact ⟨h.1, hrun h.2 (.inr hs)⟩
  case lostConnection =>
    refine ⟨h.1, fun g' hg' he => ?_⟩
    obtain ⟨g, hg, rfl⟩ := List.mem_map.1 hg'
    split at he
    · next hge => rw [if_pos hge]; exact h.2 g hg he
    · next hge => rw [if_neg hge]; exact h.2 g hg he
  all_goals exact h

/-- A reconnect may change that does not keep the feed going. -/
lemma Going.modifyReconnect (h : f.Going) {n : Nat} {change : Reconnect → Reconnect}
    (hn : ∀ r, f.reconnects[n]? = some r →
      (r.scheduled = true → r.phase ≠ .waiting) ∧
        (f.status = .reconnecting → ∀ t, r.phase ≠ .asleep t f.epoch)) :
    { f with reconnects := f.reconnects.modify n change }.Going := by
  have hkept : ∀ (m : Nat) r, f.reconnects[m]? = some r → n ≠ m →
      (f.reconnects.modify n change)[m]? = some r := by
    intro m r hm hne
    simp [hm, hne]
  unfold Going at h ⊢
  dsimp only
  cases hs : f.status <;> rw [hs] at h <;> dsimp only at h ⊢
  case lostConnection =>
    obtain ⟨⟨m, r, hm, hsch, hp, ha⟩, hrank⟩ := h
    have hne : n ≠ m := by
      rintro rfl
      exact (hn r hm).1 hsch hp
    exact ⟨⟨m, r, hkept m r hm hne, hsch, hp, ha⟩, hrank⟩
  case reconnecting =>
    obtain ⟨hslot, m, r, t, hm, hp, ha⟩ := h
    have hne : n ≠ m := by
      rintro rfl
      exact (hn r hm).2 hs t hp
    exact ⟨hslot, m, r, t, hkept m r hm hne, hp, ha⟩
  all_goals exact h

/-- A further reconnect is in nobody's way. -/
lemma Going.appendReconnect (h : f.Going) (new : Reconnect) :
    { f with reconnects := f.reconnects ++ [new] }.Going := by
  have hkept : ∀ (m : Nat) r, f.reconnects[m]? = some r →
      (f.reconnects ++ [new])[m]? = some r := fun m r hm =>
    (List.getElem?_append_left (List.getElem?_eq_some_iff.1 hm).1).trans hm
  unfold Going at h ⊢
  dsimp only
  cases hs : f.status <;> rw [hs] at h <;> dsimp only at h ⊢
  case lostConnection =>
    obtain ⟨⟨m, r, hm, hr⟩, hrank⟩ := h
    exact ⟨⟨m, r, hkept m r hm, hr⟩, hrank⟩
  case reconnecting =>
    obtain ⟨hslot, m, r, t, hm, hr⟩ := h
    exact ⟨hslot, m, r, t, hkept m r hm, hr⟩
  all_goals exact h

/-- The phase of a guardian has nothing to do with sessions and reconnects. -/
lemma Settled.setWatch (h : f.Settled) (e : Nat) (phase : WatchPhase) :
    (f.setWatch e phase).Settled where
  opened i hi := by
    obtain ⟨k, hk, hke, hrank⟩ := h.opened i hi
    refine ⟨_, List.mem_map_of_mem hk, ?_, ?_⟩
    · split <;> exact hke
    · split <;> exact hrank
  turn := h.turn

section Silent

variable (hr : Restrained may respond)
variable (hmay : ∀ status operation, ¬ may (.status status) operation)

include hr hmay

/-! ### Losing a connection -/

/-- A loss is reported by a task that has seen the read loop past connecting. Then a reconnect is
scheduled, or else the feed is going anyway. -/
lemma Alive.connectionLost (h : f.Settled) (hf : f.WellFormed may) {epoch : Nat} (retries : UInt32)
    (hrefused : f.status = .lostConnection ∨ f.isLive epoch = false → f.Going)
    (hlost : f.status ≠ .lostConnection → f.isLive epoch = true →
      f.claim < epoch ∧ ∀ g ∈ f.generations, g.epoch = epoch → 2 ≤ g.loop.rank) :
    (f.connectionLost respond epoch retries).Alive := by
  rcases connectionLost_cases respond epoch retries f with ⟨hc, he⟩ | ⟨hs, hl, k, ht, he⟩
  · rw [he]
    exact { h with going := hrefused hc }
  · obtain ⟨hclaim, hrank⟩ := hlost hs hl
    have hepoch := (isLive_iff.1 hl).2
    have hgoes := ht.goes hr hmay hf
    have hk := h.later (ht.upkeep hr.and.1 hf).2
    rw [he]
    rcases scheduleReconnect_cases epoch retries k with ⟨hno, -⟩ | ⟨-, -, hsch⟩
    · rw [hgoes.epoch, hgoes.claim] at hno
      exact absurd hno (by omega)
    · rw [hsch]
      refine { opened := hk.opened, turn := fun n hn => ?_, going := ?_ }
      · obtain ⟨r, hr, hp⟩ := hk.turn n hn
        exact ⟨r, (List.getElem?_append_left (List.getElem?_eq_some_iff.1 hr).1).trans hr, hp⟩
      · unfold Going
        dsimp only
        rw [hgoes.status]
        refine ⟨⟨k.reconnects.length, { scheduled := true, delay := none, retries }, by simp, rfl,
          rfl, rfl⟩, fun g hg hge => ?_⟩
        rw [hgoes.generations] at hg
        exact hrank g hg (by rw [hge, hgoes.epoch, hepoch])

/-! ### A step of a read loop or of a guardian -/

/-- A step of a guardian keeps a feed alive. -/
lemma WatchRun.alive {k : Generation} (hs : WatchRun respond k.epoch f f') (h : f.Alive)
    (hf : f.WellFormed may) (hk : k ∈ f.generations) : f'.Alive := by
  cases hs with
  | ended he =>
    have hp : f.epoch ≠ k.epoch ∨ ¬ (f.status = .initializing ∨ f.status = .connected) := by
      rcases he with he | he
      · exact .inr (by simp [he])
      · exact .inl he
    exact { h.toSettled.setWatch _ _ with going := h.going.setWatch hf (.inr hp) }
  | slept _ deadline =>
    exact { h.toSettled.setWatch _ _ with going := h.going.setWatch hf (.inl (by simp)) }
  | reported he hst =>
    have hrank := rank_of_isStale hf h.opened hst
    refine Alive.connectionLost hr hmay (h.toSettled.setWatch _ _) (hf.setWatch _ _) 0 ?_ ?_
    · intro hc
      refine h.going.setWatch hf (.inr (.inr ?_))
      have hc : f.status = .lostConnection ∨ f.isLive k.epoch = false := hc
      rcases hc with hs | hl
      · simp [hs]
      · have hh : f.status.isHalted = true := by
          by_contra hne
          exact absurd (isLive_iff.2 ⟨by simpa using hne, he⟩) (by simp [hl])
        rintro (hs | hs) <;> rw [hs] at hh <;> exact absurd hh (by decide)
    · intro hs hl
      have hh : f.status.isHalted = false := (isLive_iff.1 hl).1
      have hclaim := (h.going.of_generation hf hk he.symm hh hs).2
      refine ⟨he ▸ hclaim, fun g' hg' hge => ?_⟩
      obtain ⟨g, hg, rfl⟩ := List.mem_map.1 hg'
      split at hge
      · next hgk => rw [if_pos hgk]; exact hrank g hg hgk
      · next hgk => exact absurd hge hgk

/-- A read loop that opens a session keeps a feed alive. -/
lemma alive_opened {k : Generation} {deadline : Duration} {socket : Nat} {i j : Feed}
    (h : j.Alive) (hf : j.WellFormed may) (hc : k.loop = .connecting deadline)
    (hmem : (k.epoch, k.loop) ∈ j.loops) (hje : j.epoch = k.epoch) (hnc : j.status ≠ .connected)
    (hnh : j.status.isHalted = false) (ht : Told respond .connected (j.install k.epoch) i) :
    ((i.log .info "Event stream connected"
      [epochField k.epoch, ("url", i.request.url)]).awaitFrame k.epoch socket).Alive := by
  -- Only a feed that is initializing has a read loop that connects in its current epoch.
  obtain ⟨k', hk', hkk'⟩ := List.mem_map.1 hmem
  obtain ⟨hke, hkl⟩ := Prod.mk.inj hkk'
  have hlost : j.status ≠ .lostConnection := by
    intro hs
    have hg := h.going
    unfold Going at hg
    rw [hs] at hg
    have hrank := hg.2 k' hk' (hke.trans hje.symm)
    rw [hkl, hc] at hrank
    exact absurd hrank (by simp [LoopPhase.rank])
  have hinit : j.status = .initializing :=
    ((h.going.of_generation hf hk' (hke.trans hje.symm) hnh hlost).1).resolve_right hnc
  have hji : (j.install k.epoch).WellFormed may := hf.install _
  have hgoes := ht.goes hr hmay hji
  obtain ⟨hi, hlater⟩ := ht.upkeep hr.and.1 hji
  have hig : i.Going := by
    have hg := h.going
    unfold Going at hg ⊢
    rw [hinit] at hg
    rw [hgoes.status, hgoes.claim, hgoes.epoch, hgoes.slot, hgoes.generations]
    exact hg
  have hrank : k.loop.rank ≤ 2 := by
    rw [hc]
    exact Nat.le_succ _
  have hbusy : i.Busy ((i.log .info "Event stream connected"
      [epochField k.epoch, ("url", i.request.url)]).awaitFrame k.epoch socket) :=
    (busy_log _ _ _).setLoop (hi.rank_of_later hlater hmem hrank)
  refine { opened := fun e hopen => ?_, turn := ?_, going := hig.busy hbusy }
  · have hek : k.epoch = e := by
      have hopen : i.installed = some e := hopen
      rcases hlater.installed with hin | hin <;> rw [hin] at hopen
      · exact Option.some.inj hopen
      · exact absurd hopen (by simp)
    obtain ⟨k'', hk'', hkk''⟩ := hlater.generations k' hk'
    have hke'' : k''.epoch = k.epoch := hkk''.epoch.trans hke
    exact ⟨_, List.mem_map_of_mem hk'', by simp [hke'', hek], by simp [hke'', LoopPhase.rank]⟩
  · intro n hn
    obtain ⟨r, hr', hp⟩ := h.turn n (hlater.current ▸ hn)
    obtain ⟨r', hr'', hp'⟩ := hlater.reconnects n r hr'
    exact ⟨r', hr'', hp' ▸ hp⟩

/-- A step of a read loop keeps a feed alive. -/
lemma LoopRun.alive {k : Generation} (hs : LoopRun respond k f f') (h : f.Alive)
    (hf : k.loop ≠ .waiting → f.WellFormed may) (hk : k ∈ f.generations)
    (hevent : ∀ j event, j.WellFormed may → j.Alive → (publishEvent respond event j).2.Alive)
    (huniq : ∀ j ∈ f.generations, j.epoch = k.epoch → j = k) : f'.Alive := by
  have hmem : (k.epoch, k.loop) ∈ f.loops := List.mem_map_of_mem hk
  cases hs with
  | began hw =>
    have hn : (f.note .connectBegun).Alive :=
      { opened := h.opened, turn := h.turn, going := h.going.congr rfl }
    refine hn.busy ((Busy.refl _).setLoop fun j hj he => ?_)
    rw [huniq j hj he, hw]
    exact Nat.zero_le _
  | ended => exact h.busy (busy_finish _)
  | worked _ _ hb => exact h.busy hb
  | @opened deadline hc socket =>
    have hf := hf (by simp [hc])
    obtain ⟨j, hb, ⟨hl, -⟩, hj⟩ := loopConnected_cases respond k.epoch socket f
    have hjf := hf.busy hb
    have hja := h.busy hb
    have hrank : k.loop.rank ≤ 2 := by rw [hc]; exact Nat.le_succ _
    have hjrank := hjf.rank_of_later (.refl j) (hl.symm ▸ hmem) hrank
    rcases hj with ⟨-, he⟩ | ⟨-, -, he⟩ | ⟨hje, hnc, hnh, i, ht, he⟩
    · rw [he]
      exact hja.busy (busy_beginClose socket hjrank)
    · rw [he]
      have hi : { j.install k.epoch with installed := none }.Alive :=
        { opened := fun e hno => absurd hno (by simp)
          turn := hja.turn
          going := hja.going.congr rfl }
      exact hi.busy (busy_beginClose socket hjrank)
    · rw [he]
      exact alive_opened hr hmay hja hjf hc (hl.symm ▸ hmem) hje hnc hnh ht
  | failed hw _ error =>
    obtain ⟨j, hb, hbf, he⟩ := failLoop_eq respond k.epoch error f
    have hjf := (hf hw).busy hb
    have hja := h.busy hb
    rw [he]
    refine Alive.connectionLost hr hmay hja.toSettled hjf _ (fun _ => hja.going) fun hs hl => ?_
    obtain ⟨hh, hje⟩ := isLive_iff.1 hl
    obtain ⟨k', hk', hke⟩ := hb.exists_generation hk
    have hclaim := (hja.going.of_generation hjf hk' (hke.trans hje.symm) hh hs).2
    refine ⟨hje ▸ hclaim, hbf.le_rank fun i hi hie => ?_⟩
    obtain ⟨i₀, hi₀, rfl⟩ := List.mem_map.1 hi
    split at hie
    · next hc => simp [if_pos hc, LoopPhase.rank]
    · next hc => exact absurd hie hc
  | @published socket interval deadline j hread hb hl event =>
    have hjf := (hf (by simp [hread])).busy hb
    have hja := h.busy hb
    have hrank : k.loop.rank ≤ 2 := by rw [hread]; exact Nat.le_refl _
    obtain ⟨hp, hlater⟩ := upkeep_publishEvent hr.and.1 hjf event
    exact (hevent j event hjf hja).busy
      ((Busy.refl _).setLoop (hp.rank_of_later hlater (hl.symm ▸ hmem) hrank))

/-! ### Steps -/

/-- A reconnect that wakes up keeps a feed alive. -/
lemma alive_endReconnect {n epoch : Nat} {r : Reconnect} {deadline : Duration} (h : f.Alive)
    (hf : f.WellFormed may) (hn : f.reconnects[n]? = some r)
    (hp : r.phase = .asleep deadline epoch) : (f.endReconnect respond n epoch r).Alive := by
  have hset : (f.setReconnect n .finished).Settled := by
    refine { opened := h.opened, turn := fun m hm => ?_ }
    obtain ⟨r', hr', hp'⟩ := h.turn m hm
    refine ⟨_, by rw [setReconnect, List.getElem?_modify, hr']; rfl, ?_⟩
    split
    · simp
    · exact hp'
  have hwf : (f.setReconnect n .finished).WellFormed may := hf.setReconnect (by simp) n
  rcases endReconnect_cases respond n epoch r f with ⟨hc, he⟩ | ⟨-, hs, he⟩
  · rw [he]
    refine { hset with going := h.going.modifyReconnect fun r' hr' => ?_ }
    obtain rfl : r = r' := Option.some.inj (hn.symm.trans hr')
    refine ⟨fun _ hw => ?_, fun hs t ht => ?_⟩
    · rw [hp] at hw
      exact absurd hw (by simp)
    · rw [hp] at ht
      injection ht with _ ht
      exact hc.elim (fun he => he ht.symm) fun hne => hne hs
  · have hgo := going_restart hr hmay hwf hs (f.backoff.nextAttempt r.retries)
    rw [he]
    exact { hset.later ((started_restart respond _ _).upkeep hr.and.1 hwf).2 with going := hgo }

end Silent

/-- The caller lets go of nothing that the feed relies on: neither of the feed nor of a reconnect
that sleeps. -/
def HoldsOn (f : Feed) (event : Event) : Prop :=
  event ≠ .call .release ∧ ∀ (n : Nat) r, event = .giveUp (.reconnect n) →
    f.reconnects[n]? = some r → ∀ t e, r.phase ≠ .asleep t e

/-- A call of the caller keeps a feed alive. -/
lemma alive_doCall {depth : Nat} (hmay : ∀ status operation, ¬ may (.status status) operation)
    {call : Call} (h : f.Alive) (hf : f.WellFormed may) (hc : call ≠ .release) :
    (f.doCall (Feed.respond depth) call).Alive := by
  have hresp := (conducted_alive hmay).respond depth
  have hr := hresp.and.1
  cases call with
  | start retries =>
    have hs := started_start (Feed.respond depth) retries f
    exact h.later (hs.upkeep hr.and.1 hf).2 (hs.going hr hmay hf h.going)
  | stop => exact h.later (upkeep_stop hr.and.1 hf).2 (going_stop hr hmay hf)
  | reconnect delay retries =>
    exact h.later (later_addReconnect delay retries f) (h.going.appendReconnect _)
  | disconnect => exact h.later (later_addDisconnect f) (h.going.congr rfl)
  | subscribe target name handler =>
    have he := engine_subscribe f target name handler
    exact h.later (later_of_engine he) (h.going.of_engine he)
  | unsubscribe handle =>
    have he := engine_unsubscribe f handle
    exact h.later (later_of_engine he) (h.going.of_engine he)
  | publishStatus status =>
    have hn : (f.note (.statusPublished status)).WellFormed may := hf.note _
    obtain ⟨-, hl, hq⟩ := (conducted_quiet may).publishStatus hr hn
    have ha : (f.note (.statusPublished status)).Alive :=
      { opened := h.opened, turn := h.turn, going := h.going.congr rfl }
    exact ha.later hl (ha.going.of_engine (hq (hmay status)))
  | publishEvent event =>
    have hn : (f.note (.eventPublished event)).WellFormed may := hf.note _
    have ha : (f.note (.eventPublished event)).Alive :=
      { opened := h.opened, turn := h.turn, going := h.going.congr rfl }
    exact ((conducted_alive hmay).publishEvent hresp hn).2.2 ha
  | release => exact absurd rfl hc

/-- Every event keeps a feed alive, as long as the caller holds on to it. -/
lemma Stepped.alive {depth : Nat} {event : Event}
    (hmay : ∀ status operation, ¬ may (.status status) operation)
    (hs : Stepped (Feed.respond depth) f event f') (h : f.Alive) (hf : f.WellFormed may)
    (hold : HoldsOn f event) : f'.Alive := by
  have hresp := (conducted_alive hmay).respond depth
  have hr := hresp.and.1
  -- It may be the turn of any task but a reconnect that has not begun.
  have hcur : ∀ task : Option Task, (∀ n, task = some (.reconnect n) →
      ∃ r, f.reconnects[n]? = some r ∧ r.phase ≠ .waiting) → { f with current := task }.Alive :=
    fun task ht => { opened := h.opened, turn := ht, going := h.going.congr rfl }
  have hdone : ∀ {k : Feed} {n : Nat} {phase : DisconnectPhase},
      { f with current := some (.disconnect n) }.Later k → (k.setDisconnect n phase).Going →
      (k.setDisconnect n phase).Alive := fun {k n phase} hl hg =>
    have hk := (hcur (some (.disconnect n)) (by simp)).toSettled.later hl
    { opened := hk.opened, turn := hk.turn, going := hg }
  cases hs with
  | called call =>
    exact alive_doCall hmay (hcur none (by simp)) hf.noTurn fun hc => hold.1 (hc ▸ rfl)
  | @looped k wake _ hk _ hrun =>
    refine hrun.alive hr hmay (hcur _ (by simp)) (hf.setCurrentLoop hk) hk ?_
      fun j hj he => hf.eq_of_epoch_eq hj hk he
    intro j event hj ha
    have hc : Call.publishEvent event ≠ .release := by simp
    exact alive_doCall hmay ha hj hc
  | watched hk _ hrun => exact hrun.alive hr hmay (hcur _ (by simp)) (hf.turn _ (by simp)) hk
  | @reconnectBegan n r hr' hm hp =>
    -- Its turn has not come before, so it runs because nobody has aborted it.
    have hne : f.current ≠ some (.reconnect n) := by
      intro hc
      obtain ⟨r', hrr, hpr⟩ := h.turn n hc
      rw [hr'] at hrr
      exact hpr (Option.some.inj hrr ▸ hp)
    have hab : r.aborted = false := by simpa [mayRun, isAborted, hr', hne] using hm
    have hb := hf.turn (.reconnect n) (by simp)
    have hgo : ({ f with current := some (.reconnect n) }.beginReconnect _ n r).Going :=
      going_beginReconnect hr hmay hb hr' hab
    obtain ⟨-, k, phase, he, hphase, hl⟩ := upkeep_beginReconnect hr.and.1 n r hb
    rw [he] at hgo ⊢
    refine
      { opened := hl.opened Generation.Later.le_rank h.opened
        turn := fun m hm => ?_
        going := hgo }
    obtain rfl : n = m := by simpa using hl.current.symm.trans hm
    obtain ⟨rk, hrk, -⟩ := hl.reconnects n r hr'
    exact ⟨{ rk with phase }, by simp [setReconnect, hrk], hphase⟩
  | @reconnectEnded n r deadline epoch hr' _ hp =>
    have hc := hcur (some (.reconnect n)) fun m hm => by
      injection hm with hm
      injection hm with hm
      exact ⟨r, hm ▸ hr', by simp [hp]⟩
    exact alive_endReconnect hr hmay hc (hf.turn _ (by simp)) hr' hp
  | @disconnectBegan n d hd hp =>
    have hb := hf.turn (.disconnect n) (by simp)
    have hgo := going_beginDisconnect hr hmay hb n
    obtain ⟨-, k, phase, he, hl⟩ := upkeep_beginDisconnect hr.and.1 n hb ⟨d, hd, hp⟩
    rw [he] at hgo ⊢
    exact hdone hl hgo
  | @disconnectJoined n d epoch deadline =>
    have hb := hf.turn (.disconnect n) (by simp)
    have hgo := going_endDisconnect hr hmay hb n
    obtain ⟨k, he, -, hl⟩ := endDisconnect_eq hr.and.1 n hb
    rw [he] at hgo ⊢
    exact hdone hl hgo
  | @disconnectAbandoned n d epoch deadline hd hp =>
    obtain ⟨j, hj, hjf, hjl, -⟩ := abandonDisconnect_eq (hf.turn (.disconnect n) (by simp)) hd hp
    have hgo := going_endDisconnect hr hmay hjf n
    obtain ⟨k, he, -, hl⟩ := endDisconnect_eq hr.and.1 n hjf
    rw [hj]
    rw [he] at hgo ⊢
    exact hdone (hjl.trans hl) hgo
  | refreshed hb => exact (hcur _ (by simp)).busy hb
  | ticked => exact { opened := h.opened, turn := by simp, going := h.going.congr rfl }
  | @reconnectGivenUp n hn =>
    have hgo : { f with current := none }.Going := h.going.congr rfl
    refine { opened := h.opened, turn := by simp, going := hgo.modifyReconnect fun r hr' => ?_ }
    have hsch : r.scheduled = false := by
      have hr' : f.reconnects[n]? = some r := hr'
      simpa [hr'] using hn
    exact ⟨fun hs => absurd hs (by simp [hsch]), fun _ t => hold.2 n r rfl hr' t _⟩
  | disconnectGivenUp => exact { opened := h.opened, turn := by simp, going := h.going.congr rfl }

/-! ### A task that can run -/

/-- Nobody has aborted the task, and it can run, at the latest when its time has come. -/
def CanRun (depth : Nat) (f : Feed) (task : Task) : Prop :=
  f.isAborted task = false ∧ ∃ now wake g,
    f.step? depth (.tick now) = some g ∧ (g.step? depth (.run task wake)).isSome = true

/-- The clock may move on to where a deadline has passed. -/
lemma exists_tick (depth : Nat) (f : Feed) (deadline : Duration) :
    ∃ now, deadline ≤ now ∧ f.step? depth (.tick now) = some { f with now, current := none } := by
  have hnow : f.now ≤ ⟨max f.now.nanos deadline.nanos⟩ := Nat.le_max_left _ _
  exact ⟨_, Nat.le_max_right _ _, if_pos hnow⟩

/-- A guardian that is awake can run. -/
lemma canRun_watch (hf : f.WellFormed may) (depth : Nat) {k : Generation}
    (hk : k ∈ f.generations) (ha : k.watchAborted = false) (hw : k.watch ≠ .finished) :
    CanRun depth f (.watch k.epoch) := by
  have hgen := hf.generation?_eq_some_iff.2 ⟨hk, rfl⟩
  unfold generation? at hgen
  refine ⟨by simp [isAborted, generation?, hgen, ha], ?_⟩
  cases hp : k.watch with
  | waiting =>
    obtain ⟨now, -, htick⟩ := exists_tick depth f .zero
    refine ⟨now, .first, _, htick, ?_⟩
    simp [step?, runTask, mayRun, isAborted, generation?, hgen, ha, stepWatch, hp]
  | asleep deadline =>
    obtain ⟨now, hnow, htick⟩ := exists_tick depth f deadline
    refine ⟨now, .elapsed, _, htick, ?_⟩
    simp [step?, runTask, mayRun, isAborted, generation?, hgen, ha, stepWatch, hp, hnow]
  | finished => exact absurd hp hw

/-- A reconnect that has not come to its end can run. -/
lemma canRun_reconnect (depth : Nat) {n : Nat} {r : Reconnect} (hn : f.reconnects[n]? = some r)
    (ha : r.aborted = false) (hp : r.phase ≠ .finished) : CanRun depth f (.reconnect n) := by
  refine ⟨by simp [isAborted, hn, ha], ?_⟩
  cases hphase : r.phase with
  | waiting =>
    obtain ⟨now, -, htick⟩ := exists_tick depth f .zero
    refine ⟨now, .first, _, htick, ?_⟩
    simp [step?, runTask, mayRun, isAborted, hn, ha, stepReconnect, hphase]
  | asleep deadline epoch =>
    obtain ⟨now, hnow, htick⟩ := exists_tick depth f deadline
    refine ⟨now, .elapsed, _, htick, ?_⟩
    simp [step?, runTask, mayRun, isAborted, hn, ha, stepReconnect, hphase, hnow]
  | finished => exact absurd hphase hp

/-! ### A feed is never wedged -/

/-- A feed that has not been started is alive, though it need not be taken further. -/
lemma alive_of_ofSettings {settings : Settings} {refreshable : Bool}
    (h : ofSettings settings refreshable = .ok f) : f.Alive := by
  obtain ⟨request, rfl⟩ := eq_of_ofSettings h
  exact { opened := by simp, turn := by simp, going := rfl }

/-- Every feed that is reached is alive, if subscribers to the status refrain from operations and
the caller holds on. -/
lemma Reachable.alive {depth : Nat}
    (hr : Reachable depth (fun g event => event.Keeps .quietOnStatus ∧ HoldsOn g event) f) :
    f.WellFormed Conduct.quietOnStatus ∧ f.Alive := by
  refine hr.invariant Alive (fun _ _ ha => ha.1) (fun _ _ _ h => alive_of_ofSettings h) ?_
  intro g event h hg ha hi hs
  exact (stepped_of_step? hg hs).alive Conduct.not_quietOnStatus hi hg ha.2

/-- A feed is never wedged. While it connects or is connected, the slot holds the generation of the
current epoch, none of whose tasks is aborted, and the guardian has not come to its end. After a
loss a scheduled reconnect has not run yet and is not aborted. While it is reconnecting, a reconnect
that is not aborted sleeps and remembers the current epoch. So in every feed that has been started
and is not halted a task can run. -/
theorem never_wedged {depth : Nat}
    (hr : Reachable depth (fun g event => event.Keeps .quietOnStatus ∧ HoldsOn g event) f) :
    (f.status = .initializing ∨ f.status = .connected →
      f.slot = some f.epoch ∧ ∃ g ∈ f.generations, g.epoch = f.epoch ∧
        g.loopAborted = false ∧ g.watchAborted = false ∧ g.watch ≠ .finished) ∧
    (f.status = .lostConnection → ∃ (n : Nat) (r : Reconnect), f.reconnects[n]? = some r ∧
      r.scheduled = true ∧ r.phase = .waiting ∧ r.aborted = false) ∧
    (f.status = .reconnecting → ∃ (n : Nat) (r : Reconnect) (deadline : Duration),
      f.reconnects[n]? = some r ∧ r.phase = .asleep deadline f.epoch ∧ r.aborted = false) ∧
    (f.status.isHalted = false → f.status ≠ .notStarted → ∃ task, CanRun depth f task) := by
  obtain ⟨hf, ha⟩ := hr.alive
  have hgo := ha.going
  have hrunning : f.status = .initializing ∨ f.status = .connected →
      f.slot = some f.epoch ∧ ∃ g ∈ f.generations, g.epoch = f.epoch ∧
        g.loopAborted = false ∧ g.watchAborted = false ∧ g.watch ≠ .finished := by
    intro hs
    obtain ⟨g, hg, hslot, hw⟩ : ∃ g ∈ f.generations, f.slot = some g.epoch ∧
        g.watch ≠ .finished := by
      unfold Going at hgo
      rcases hs with hs | hs <;> rw [hs] at hgo <;> exact hgo.2
    have he := (hf.slot _ hslot).1
    have hfree := hf.held g hg hslot
    exact ⟨he ▸ hslot, g, hg, he, hfree.loop, hfree.watch, hw⟩
  have hlost : f.status = .lostConnection → ∃ (n : Nat) (r : Reconnect),
      f.reconnects[n]? = some r ∧ r.scheduled = true ∧ r.phase = .waiting ∧
        r.aborted = false := by
    intro hs
    unfold Going at hgo
    rw [hs] at hgo
    exact hgo.1
  have hasleep : f.status = .reconnecting → ∃ (n : Nat) (r : Reconnect) (deadline : Duration),
      f.reconnects[n]? = some r ∧ r.phase = .asleep deadline f.epoch ∧ r.aborted = false := by
    intro hs
    unfold Going at hgo
    rw [hs] at hgo
    exact hgo.2
  refine ⟨hrunning, hlost, hasleep, fun hh hn => ?_⟩
  have hwatch : f.status = .initializing ∨ f.status = .connected →
      ∃ task, CanRun depth f task := by
    intro hs
    obtain ⟨-, g, hg, -, -, hab, hw⟩ := hrunning hs
    exact ⟨_, canRun_watch hf depth hg hab hw⟩
  cases hs : f.status with
  | notStarted => exact absurd hs hn
  | initializing => exact hwatch (.inl hs)
  | connected => exact hwatch (.inr hs)
  | lostConnection =>
    obtain ⟨n, r, hnr, -, hp, hab⟩ := hlost hs
    exact ⟨_, canRun_reconnect depth hnr hab (by simp [hp])⟩
  | reconnecting =>
    obtain ⟨n, r, deadline, hnr, hp, hab⟩ := hasleep hs
    exact ⟨_, canRun_reconnect depth hnr hab (by simp [hp])⟩
  | reconnectFailed =>
    unfold Going at hgo
    rw [hs] at hgo
    exact hgo.elim
  | disconnecting => rw [hs] at hh; exact absurd hh (by decide)
  | disconnected => rw [hs] at hh; exact absurd hh (by decide)
  | stopUpdates => rw [hs] at hh; exact absurd hh (by decide)

/-- A feed that has lost its connection, with a subscriber that asks for a reconnect whenever it is
told of an event. -/
theorem never_wedged_after_loss :
    ∃ f : Feed, f.status = .lostConnection ∧ ∃ (n : Nat) (r : Reconnect),
      f.reconnects[n]? = some r ∧ r.scheduled = true ∧ r.phase = .waiting ∧ r.aborted = false := by
  let asks : Handler
    | [] => []
    | .status _ :: _ => []
    | .event _ :: _ => [.reconnect none 0]
  let events : List Event :=
    [.call (.subscribe (.events none) "asks again" asks), .call (.start 0),
      .run (.loop 1) .first, .run (.loop 1) (.connected 0), .run (.loop 1) .ended]
  have hasks : Event.Keeps .quietOnStatus
      (.call (.subscribe (.events none) "asks again" asks)) := by
    rintro (status | event) heard command hc
    · exact absurd hc List.not_mem_nil
    · obtain rfl := List.mem_singleton.1 hc
      exact .reconnect ⟨event, rfl⟩
  have hplay : (played? 1 events).map Feed.status = some .lostConnection := by decide +kernel
  obtain ⟨f, hf, hstatus⟩ := Option.map_eq_some_iff.1 hplay
  have hr : Reachable 1 (fun g event => event.Keeps .quietOnStatus ∧ HoldsOn g event) f := by
    refine .of_played? hf fun event he g => ?_
    simp only [events, List.mem_cons, List.not_mem_nil, or_false] at he
    obtain rfl | rfl | rfl | rfl | rfl := he
    · exact ⟨hasks, by simp [HoldsOn]⟩
    all_goals exact ⟨by simp [Event.Keeps], by simp [HoldsOn]⟩
  exact ⟨f, hstatus, (never_wedged hr).2.1 hstatus⟩

end EventFeed.Feed
