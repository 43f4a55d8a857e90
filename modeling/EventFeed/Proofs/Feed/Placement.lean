import EventFeed.Proofs.Feed.Disconnected
import EventFeed.Proofs.Feed.Lifecycle

/-!
# Everything is in its place

Between two steps more is true than in the middle of one. A status that tasks of a generation bring
about tells where the read loop of the current epoch is: it is past connecting once the feed is
connected or has lost its connection, so that no read loop can open a session from there. The
session that is installed belongs to a generation that has opened one; and while the feed is
connected, that is the generation in the slot, the one of the current epoch, unless the caller has
let go of the feed.

`Placed` states this on top of the lifecycle of statuses. Operations keep it since they lead to no
status that is for tasks to bring about; what is left are the steps of read loops and guardians.
-/

namespace EventFeed

/-- The read loop of a generation is past connecting, and it has opened a session. -/
structure Generation.Opened (g : Generation) : Prop where
  loop : 2 ≤ g.loop.rank
  session : g.session.isSome = true

/-- Operations leave the session of a generation open. -/
lemma Generation.Later.opened {g g' : Generation} (h : g.Later g') (hg : g.Opened) : g'.Opened :=
  ⟨h.le_rank hg.loop, h.session ▸ hg.session⟩

/-- The statuses that a caller publishes past the feed. -/
def Event.given : Event → List ConnectionState
  | .call (.publishStatus status) => [status]
  | _ => []

namespace Feed

variable {may : Conduct} {respond : Respond} {f f' g : Feed} {held : Prop}

/-- Statuses are on their path, and where a read loop of the current epoch has to be for the status
and for the session that is installed, there it is. A feed that is connected has neither a session
nor a generation in the slot only if the caller has let go of it. -/
structure Placed (held : Prop) (f : Feed) : Prop where
  lawful : f.Lawful
  past : f.status.isOutcome = true → ∀ g ∈ f.generations, g.epoch = f.epoch → 2 ≤ g.loop.rank
  opened : ∀ e, f.installed = some e → ∃ g ∈ f.generations, g.epoch = e ∧ g.Opened
  seated : f.status = .connected → (f.installed = some f.epoch ∧ f.slot = some f.epoch) ∨
    (¬ held ∧ f.installed = none ∧ f.slot = none)

/-- Where everything is has nothing to do with reconnects, disconnects and turns. -/
lemma Placed.congr (h : f.Placed held)
    (he : (g.status, g.changes, g.epoch, g.slot, g.installed, g.generations) =
      (f.status, f.changes, f.epoch, f.slot, f.installed, f.generations)) : g.Placed held := by
  simp only [Prod.mk.injEq] at he
  obtain ⟨status, changes, epoch, slot, installed, generations⟩ := he
  constructor
  case lawful => exact h.lawful.congr (by rw [status, changes]) (.inl slot)
  case past =>
    rw [status, epoch, generations]
    exact h.past
  case opened =>
    rw [installed, generations]
    exact h.opened
  case seated =>
    rw [status, epoch, slot, installed]
    exact h.seated

/-- A feed that has not been started has everything in its place. -/
lemma placed_of_ofSettings {settings : Settings} {refreshable : Bool}
    (h : ofSettings settings refreshable = .ok f) : f.Placed held := by
  have hlawful := lawful_of_ofSettings h
  obtain ⟨request, rfl⟩ := eq_of_ofSettings h
  exact ⟨hlawful, by simp, by simp, by simp⟩

/-- Tasks of generations may go on, as long as no read loop goes back and no session is given up. -/
lemma Placed.map (h : f.Placed held) {c : Generation → Generation}
    (generations : g.generations = f.generations.map c) (hepoch : ∀ k, (c k).epoch = k.epoch)
    (hloop : ∀ k ∈ f.generations, k.loop.rank ≤ (c k).loop.rank)
    (hsession : ∀ k ∈ f.generations, k.session.isSome = true → (c k).session.isSome = true)
    (he : (g.status, g.changes, g.epoch, g.slot, g.installed) =
      (f.status, f.changes, f.epoch, f.slot, f.installed)) : g.Placed held := by
  simp only [Prod.mk.injEq] at he
  obtain ⟨status, changes, epoch, slot, installed⟩ := he
  constructor
  case lawful => exact h.lawful.congr (by rw [status, changes]) (.inl slot)
  case past =>
    rw [status, epoch, generations]
    intro ho k' hk' hke
    obtain ⟨k, hk, rfl⟩ := List.mem_map.1 hk'
    exact Nat.le_trans (h.past ho k hk ((hepoch k).symm.trans hke)) (hloop k hk)
  case opened =>
    rw [installed, generations]
    intro e hopen
    obtain ⟨k, hk, hke, hko⟩ := h.opened e hopen
    exact ⟨c k, List.mem_map_of_mem hk, (hepoch k).trans hke,
      Nat.le_trans hko.loop (hloop k hk), hsession k hk hko.session⟩
  case seated =>
    rw [status, epoch, slot, installed]
    exact h.seated

/-- Work of read loops leaves everything in its place. -/
lemma Placed.busy (h : f.Placed held) (hb : f.Busy g) : g.Placed held := by
  obtain ⟨c, hc, hce, hcp⟩ := hb.generations
  have hchanges := hb.changes
  obtain ⟨_, _, _, _, _, rfl⟩ := hb.rest
  exact h.map hc hce (fun k hk => (hcp k hk).loop) (fun k hk => (hcp k hk).kept)
    (by rw [hchanges])

/-- Work of read loops publishes no status. -/
lemma Busy.echoes (hb : f.Busy g) : f.Echoes [] g :=
  .of_eq (by rw [hb.changes, hb.published])

/-- So does a guardian that goes on. -/
lemma Placed.setWatch (h : f.Placed held) (e : Nat) (phase : WatchPhase) :
    (f.setWatch e phase).Placed held := by
  refine h.map rfl (fun k => ?_) (fun k _ => ?_) (fun k _ => ?_) rfl
  · split <;> rfl
  · split <;> exact Nat.le_refl _
  · split <;> exact id

/-- A read loop that is aborted stays where it is. -/
lemma Placed.abandon (h : f.Placed held) (e : Nat) :
    (f.changeGeneration e fun k => { k with loopAborted := true }).Placed held := by
  refine h.map rfl (fun k => ?_) (fun k _ => ?_) (fun k _ => ?_) rfl
  · split <;> rfl
  · split <;> exact Nat.le_refl _
  · split <;> exact id

/-- While the generation of the current epoch exists and the feed is not halted, the feed is
connecting or connected, or it has lost its connection. -/
lemma Placed.status_of_live (h : f.Placed held) (hf : f.WellFormed may) {k : Generation}
    (hk : k ∈ f.generations) (hke : k.epoch = f.epoch) (hh : f.status.isHalted = false) :
    f.status = .initializing ∨ f.status = .connected ∨ f.status = .lostConnection := by
  have hslot : f.slot = some f.epoch := hf.slot_of_epoch_eq hk hke
  obtain ⟨hn, hrec⟩ := h.lawful.held (by simp [hslot])
  have hfail := h.lawful.ne_reconnectFailed
  revert hh hn hrec hfail
  cases f.status <;> decide

/-- While the read loop of the current epoch has got no further than to connect, the status is none
that only tasks of that generation bring about. -/
lemma Placed.not_outcome (h : f.Placed held) {k : Generation} (hk : k ∈ f.generations)
    (hke : k.epoch = f.epoch) (hrank : k.loop.rank < 2) : f.status.isOutcome = false := by
  by_contra ho
  have := h.past (by simpa using ho) k hk hke
  omega

/-- A feed that is not halted, with a generation that has got no further than to connect, is
connecting. -/
lemma Placed.initializing (h : f.Placed held) (hf : f.WellFormed may) {k : Generation}
    (hk : k ∈ f.generations) (hke : k.epoch = f.epoch) (hrank : k.loop.rank < 2)
    (hh : f.status.isHalted = false) : f.status = .initializing := by
  have hno := h.not_outcome hk hke hrank
  rcases h.status_of_live hf hk hke hh with hst | hst | hst
  · exact hst
  · exact absurd (hst ▸ hno) (by decide)
  · exact absurd (hst ▸ hno) (by decide)

/-! ### Operations -/

/-- What leaves tasks alone and leads to no status that is for them to bring about leaves everything
in its place. -/
lemma Placed.steers (h : f.Placed held) (hl : f.Later g) (hs : f.Steers g) : g.Placed held where
  lawful := hs.lawful h.lawful
  past ho := by
    have heng := hs.outcome ho
    have he := eq_of_engine heng (fun k => (k.status, k.epoch, k.generations)) fun _ => rfl
    simp only [Prod.mk.injEq] at he
    obtain ⟨status, epoch, generations⟩ := he
    rw [epoch, generations]
    exact h.past (status ▸ ho)
  opened := hl.opened Generation.Later.opened h.opened
  seated hc := by
    have heng := hs.outcome (by rw [hc]; rfl)
    have he := eq_of_engine heng (fun k => (k.status, k.epoch, k.installed, k.slot)) fun _ => rfl
    simp only [Prod.mk.injEq] at he
    obtain ⟨status, epoch, installed, slot⟩ := he
    rw [epoch, installed, slot]
    exact h.seated (status ▸ hc)

/-- It publishes every change of the status as well. -/
lemma Placed.steady (h : f.Placed held) (hl : f.Later g) (hs : f.Steers g) :
    g.Placed held ∧ f.Echoes [] g :=
  ⟨h.steers hl hs, hs.echoes⟩

/-- Answers keep the bookkeeping, leave tasks alone, and keep statuses on their path. -/
abbrev Steady (may : Conduct) (respond : Respond) : Prop :=
  Respects (WellFormed may) (fun _ f g => f.Later g ∧ f.Steers g) respond

section Steady

variable (hr : Steady may respond)

include hr

/-- The last part of a disconnect leaves everything in its place. -/
lemma placed_endDisconnect (h : f.Placed held) (hf : f.WellFormed may) (n : Nat) :
    (f.endDisconnect respond n).Placed held ∧ f.Echoes [] (f.endDisconnect respond n) := by
  have hl := leads_endDisconnect hr.and.2 n hf
  obtain ⟨k, he, -, hlater⟩ := endDisconnect_eq hr.and.1 n hf
  rw [he] at hl ⊢
  have hk : f.Leads k := hl.ends rfl (.inl rfl)
  exact ⟨(h.steers hlater hk.steers).congr rfl, hl.echoes⟩

/-- A lost connection leaves everything in its place, if it is reported by a task that has seen the
read loop past connecting. -/
lemma placed_connectionLost (h : f.Placed held) (hf : f.WellFormed may) {epoch : Nat}
    (retries : UInt32) (hgen : ∃ k ∈ f.generations, k.epoch = epoch)
    (hrank : ∀ k ∈ f.generations, k.epoch = epoch → 2 ≤ k.loop.rank) :
    (f.connectionLost respond epoch retries).Placed held ∧
      f.Echoes [] (f.connectionLost respond epoch retries) := by
  rcases connectionLost_cases respond epoch retries f with ⟨-, he⟩ | ⟨hs, hlive, k, ht, he⟩
  · rw [he]
    exact ⟨h, .of_eq rfl⟩
  · obtain ⟨hh, hepoch⟩ : f.status.isHalted = false ∧ f.epoch = epoch := by
      simpa [isLive] using hlive
    have hfollows : f.status.Follows .lostConnection := by
      obtain ⟨i, hi, hie⟩ := hgen
      rcases h.status_of_live hf hi (hie.trans hepoch.symm) hh with hst | hst | hst
      · rw [hst]; decide
      · rw [hst]; decide
      · exact absurd hst hs
    have htr := ht.traces hr.and.2 hf fun hl => hl.announce hfollows (by simp)
    have hlater := (ht.upkeep hr.and.1 hf).2
    have hk : k.Placed held := by
      refine ⟨htr.lawful h.lawful, fun ho => ?_, hlater.opened Generation.Later.opened h.opened,
        fun hc => ?_⟩
      · have heng := ht.outcome hr.and.2 hf ho
        rw [eq_of_engine heng Feed.epoch fun _ => rfl,
          eq_of_engine heng Feed.generations fun _ => rfl]
        exact fun i hi hie => hrank i hi (hie.trans hepoch)
      · have heng := ht.outcome hr.and.2 hf (by rw [hc]; rfl)
        have hlost : k.status = .lostConnection := eq_of_engine heng Feed.status fun _ => rfl
        rw [hlost] at hc
        exact absurd hc (by simp)
    rw [he]
    rcases scheduleReconnect_cases epoch retries k with ⟨-, hsch⟩ | ⟨-, -, hsch⟩
    · rw [hsch]
      exact ⟨hk, htr.echoes⟩
    · rw [hsch]
      exact ⟨hk.congr rfl, htr.echoes⟩

/-! ### Read loops and guardians -/

/-- A step of a guardian leaves everything in its place. -/
lemma WatchRun.placed {k : Generation} (hs : WatchRun respond k.epoch f f') (h : f.Placed held)
    (hf : f.WellFormed may) (hk : k ∈ f.generations) : f'.Placed held ∧ f.Echoes [] f' := by
  cases hs with
  | ended => exact ⟨h.setWatch _ _, .of_eq rfl⟩
  | slept => exact ⟨h.setWatch _ _, .of_eq rfl⟩
  | reported _ hst =>
    have hrank := rank_of_isStale hf
      (fun e he => (h.opened e he).imp fun i hi => ⟨hi.1, hi.2.1, hi.2.2.loop⟩) hst
    have hset : f.Echoes [] (f.setWatch k.epoch .finished) := .of_eq rfl
    have hgen : ∃ i ∈ (f.setWatch k.epoch .finished).generations, i.epoch = k.epoch :=
      ⟨_, List.mem_map_of_mem hk, by simp⟩
    obtain ⟨hp, he⟩ := placed_connectionLost hr (h.setWatch k.epoch .finished)
      (hf.setWatch _ _) 0 hgen fun i' hi' hie => by
        obtain ⟨i, hi, rfl⟩ := List.mem_map.1 hi'
        split at hie
        · next hik => rw [if_pos hik]; exact hrank i hi hik
        · next hik => exact absurd hie hik
    exact ⟨hp, hset.trans he⟩

/-- A read loop that opens a session brings everything to its place. -/
lemma placed_opened {k : Generation} (socket : Nat) {i j : Feed} (h : j.Placed held)
    (hf : j.WellFormed may) (hk : k ∈ j.generations) (hrank : k.loop.rank < 2)
    (hsession : k.session.isSome = true) (hje : j.epoch = k.epoch) (hnc : j.status ≠ .connected)
    (hnh : j.status.isHalted = false) (ht : Told respond .connected (j.install k.epoch) i) :
    ((i.log .info "Event stream connected"
        [epochField k.epoch, ("url", i.request.url)]).awaitFrame k.epoch socket).Placed held ∧
      j.Echoes [] ((i.log .info "Event stream connected"
        [epochField k.epoch, ("url", i.request.url)]).awaitFrame k.epoch socket) := by
  have hslot : j.slot = some j.epoch := hf.slot_of_epoch_eq hk hje.symm
  have hfollows : j.status.Follows .connected := by
    have hno := h.not_outcome hk hje.symm hrank
    rcases h.status_of_live hf hk hje.symm hnh with hst | hst | hst
    · rw [hst]; decide
    · exact absurd hst hnc
    · rw [hst] at hno; exact absurd hno (by decide)
  have hji : (j.install k.epoch).WellFormed may := hf.install _
  have htr := ht.traces hr.and.2 hji fun hl => hl.announce hfollows (by simp)
  have hlater := (ht.upkeep hr.and.1 hji).2
  -- If the feed is still connected after the announcement, nothing else has happened.
  have hstill : i.status.isOutcome = true →
      i.epoch = k.epoch ∧ i.slot = some k.epoch ∧ i.installed = some k.epoch := by
    intro ho
    have heng := ht.outcome hr.and.2 hji ho
    have he := eq_of_engine heng (fun k => (k.epoch, k.slot, k.installed)) fun _ => rfl
    simp only [Prod.mk.injEq] at he
    exact ⟨he.1.trans hje, he.2.1.trans (hslot.trans (congrArg some hje)), he.2.2⟩
  have hi : i.Lawful := htr.lawful (h.lawful.congr rfl (.inl rfl))
  refine ⟨⟨hi.congr rfl (.inl rfl), fun ho => ?_, fun e hopen => ?_, fun hc => .inl ?_⟩, htr.echoes⟩
  · intro k' hk' hke
    obtain ⟨k₀, -, rfl⟩ := List.mem_map.1 hk'
    obtain ⟨hie, -⟩ := hstill ho
    split
    · exact Nat.le_refl _
    · next hne =>
      rw [if_neg hne] at hke
      exact absurd (hke.trans hie) hne
  · have hek : k.epoch = e := by
      have hopen : i.installed = some e := hopen
      rcases hlater.installed with hin | hin <;> rw [hin] at hopen
      · exact Option.some.inj hopen
      · exact absurd hopen (by simp)
    obtain ⟨k', hk', hkk'⟩ := hlater.generations k hk
    have hke' : k'.epoch = k.epoch := hkk'.epoch
    refine ⟨_, List.mem_map_of_mem hk', by simp [hke', hek], by simp [hke', LoopPhase.rank], ?_⟩
    rw [if_pos hke']
    exact hkk'.session ▸ hsession
  · have hc : i.status = .connected := hc
    obtain ⟨hie, his, hii⟩ := hstill (by rw [hc]; rfl)
    exact ⟨hii.trans (congrArg some hie.symm), his.trans (congrArg some hie.symm)⟩

/-- A socket that has been opened leaves everything in its place, whether its session is accepted
or not. -/
lemma placed_loopConnected (h : f.Placed held) (hf : f.WellFormed may) {k : Generation}
    (hk : k ∈ f.generations) (hrank : k.loop.rank ≤ 1) (socket : Nat) :
    (f.loopConnected respond k.epoch socket).Placed held ∧
      f.Echoes [] (f.loopConnected respond k.epoch socket) := by
  have hmem : (k.epoch, k.loop) ∈ f.loops := List.mem_map_of_mem hk
  obtain ⟨j, hb, ⟨hl, hsession⟩, hj⟩ := loopConnected_cases respond k.epoch socket f
  have hjf := hf.busy hb
  have hjp := h.busy hb
  have hjrank := hjf.rank_of_later (.refl j) (hl.symm ▸ hmem) hrank
  have hclose := fun i hi hie => Nat.le_succ_of_le (hjrank i hi hie)
  obtain ⟨k', hk', hke⟩ := hb.exists_generation hk
  have hlt : k'.loop.rank < 2 := Nat.lt_succ_of_le (hjrank k' hk' hke)
  rcases hj with ⟨-, he⟩ | ⟨hje, -, he⟩ | ⟨hje, hnc, hnh, i, ht, he⟩
  · have hbc := busy_beginClose socket hclose
    rw [he]
    exact ⟨hjp.busy hbc, hb.echoes.trans hbc.echoes⟩
  · have hno := hjp.not_outcome hk' (hke.trans hje.symm) hlt
    have hforget : { j.install k.epoch with installed := none }.Placed held :=
      { lawful := hjp.lawful.congr rfl (.inl rfl)
        past := hjp.past
        opened := by simp
        seated := fun hs => absurd (hs ▸ hno) (by decide) }
    have hbc : { j.install k.epoch with installed := none }.Busy _ :=
      busy_beginClose socket hclose
    have hecho : j.Echoes [] { j.install k.epoch with installed := none } := .of_eq rfl
    rw [he]
    exact ⟨hforget.busy hbc, (hb.echoes.trans hecho).trans hbc.echoes⟩
  · rw [← hke] at hje ht he
    obtain ⟨hp, hecho⟩ := placed_opened hr socket hjp hjf hk' hlt
      (hsession k' hk' hke) hje hnc hnh ht
    rw [hke] at he hp hecho
    rw [he]
    exact ⟨hp, hb.echoes.trans hecho⟩

/-- The publication of an event leaves everything in its place. -/
lemma placed_publishEvent (h : f.Placed held) (hf : f.WellFormed may) (event : RoutedEvent) :
    (publishEvent respond event f).2.Placed held ∧
      f.Echoes [] (publishEvent respond event f).2 := by
  have hn : (f.note (.eventPublished event)).WellFormed may := hf.note _
  have hnp : (f.note (.eventPublished event)).Placed held := h.congr rfl
  have hecho : f.Echoes [] (f.note (.eventPublished event)) := .of_eq rfl
  obtain ⟨-, hlater, hsteers⟩ := (conducted_steers may).toFramed.publishEvent hr hn
  exact ⟨hnp.steers hlater hsteers, hecho.trans hsteers.echoes⟩

/-- A step of a read loop leaves everything in its place. -/
lemma LoopRun.placed {k : Generation} (hs : LoopRun respond k f f') (h : f.Placed held)
    (hf : k.loop ≠ .waiting → f.WellFormed may) (hk : k ∈ f.generations)
    (huniq : ∀ j ∈ f.generations, j.epoch = k.epoch → j = k) :
    f'.Placed held ∧ f.Echoes [] f' := by
  have hmem : (k.epoch, k.loop) ∈ f.loops := List.mem_map_of_mem hk
  cases hs with
  | began hw =>
    have hn : (f.note .connectBegun).Placed held := h.congr rfl
    refine ⟨hn.busy ((Busy.refl _).setLoop fun j hj he => ?_), .of_eq rfl⟩
    rw [huniq j hj he, hw]
    exact Nat.zero_le _
  | ended => exact ⟨h.busy (busy_finish _), .of_eq rfl⟩
  | worked _ _ hb => exact ⟨h.busy hb, hb.echoes⟩
  | opened hc socket =>
    exact placed_loopConnected hr h (hf (by simp [hc])) hk (by rw [hc]; exact Nat.le_refl _) socket
  | failed hw _ error =>
    obtain ⟨j, hb, hbf, he⟩ := failLoop_eq respond k.epoch error f
    obtain ⟨hp, hecho⟩ := placed_connectionLost hr (h.busy hb) ((hf hw).busy hb) f.retry.attempt
      (hb.exists_generation hk) (hbf.le_rank fun i hi hie => by
        obtain ⟨i₀, hi₀, rfl⟩ := List.mem_map.1 hi
        split at hie
        · next hc => simp [if_pos hc, LoopPhase.rank]
        · next hc => exact absurd hie hc)
    rw [he]
    exact ⟨hp, hb.echoes.trans hecho⟩
  | @published socket interval deadline j hread hb hl event =>
    have hjf := (hf (by simp [hread])).busy hb
    have hrank : k.loop.rank ≤ 2 := by rw [hread]; exact Nat.le_refl _
    obtain ⟨hw, hlater⟩ := upkeep_publishEvent hr.and.1 hjf event
    obtain ⟨hp, hecho⟩ := placed_publishEvent hr (h.busy hb) hjf event
    refine ⟨hp.busy ?_, (hb.echoes.trans hecho).trans (.of_eq rfl)⟩
    exact (Busy.refl _).setLoop (hw.rank_of_later hlater (hl.symm ▸ hmem) hrank)

/-! ### Steps -/

/-- A call of the caller leaves everything in its place, if the caller holds on to the feed where
that is asked for. -/
lemma placed_doCall {call : Call} (h : f.Placed held) (hf : f.WellFormed may)
    (hheld : held → call ≠ .release) :
    (f.doCall respond call).Placed held ∧
      f.Echoes (Event.given (.call call)) (f.doCall respond call) := by
  have hl := later_doCall hr.and.1 hf call
  cases call with
  | start retries => exact h.steady hl (steers_startWhere hr.and.2 hf (by simp))
  | stop => exact h.steady hl (leads_stop hr.and.2 hf).steers
  | reconnect delay retries => exact ⟨h.congr rfl, .of_eq rfl⟩
  | disconnect => exact ⟨h.congr rfl, .of_eq rfl⟩
  | subscribe target name handler =>
    exact h.steady hl (steers_of_engine (engine_subscribe f target name handler))
  | unsubscribe handle => exact h.steady hl (steers_of_engine (engine_unsubscribe f handle))
  | publishStatus status =>
    have hn : (f.note (.statusPublished status)).WellFormed may := hf.note _
    have hnp : (f.note (.statusPublished status)).Placed held := h.congr rfl
    have hecho : f.Echoes [status] (f.note (.statusPublished status)) := ⟨[], rfl, rfl⟩
    obtain ⟨-, hlater, hsteers⟩ := (conducted_steers may).toFramed.publishStatus hr hn
    exact ⟨hnp.steers hlater hsteers, hecho.trans hsteers.echoes⟩
  | publishEvent event => exact placed_publishEvent hr h hf event
  | release =>
    have hpast : ∀ k ∈ f.abortPending.haltTasks.generations,
        k.epoch ≠ f.abortPending.haltTasks.epoch := by
      intro k hk
      exact Nat.ne_of_lt
        ((hf.abortPending.haltTasks).released k hk (by rw [haltTasks_eq]; simp)).epoch
    have htr : f.Traces f.abortPending.haltTasks := by
      rw [haltTasks_eq, abortPending_eq]
      exact .of_eq rfl (.inr rfl)
    refine ⟨⟨htr.lawful h.lawful, fun _ k hk hke => absurd hke (hpast k hk), fun e he => ?_,
      fun _ => .inr ⟨fun hh => hheld hh rfl, ?_⟩⟩, htr.echoes⟩
    · exact absurd he (by simp [doCall, Feed.release, haltTasks_eq])
    · simp [doCall, Feed.release, haltTasks_eq]

/-- A reconnect that wakes up leaves everything in its place. -/
lemma placed_endReconnect (h : f.Placed held) (hf : f.WellFormed may) (n epoch : Nat)
    (r : Reconnect) :
    (f.endReconnect respond n epoch r).Placed held ∧
      f.Echoes [] (f.endReconnect respond n epoch r) := by
  have hn : (f.setReconnect n .finished).WellFormed may := hf.setReconnect (by simp) n
  have hnp : (f.setReconnect n .finished).Placed held := h.congr rfl
  have hecho : f.Echoes [] (f.setReconnect n .finished) := .of_eq rfl
  rcases endReconnect_cases respond n epoch r f with ⟨-, he⟩ | ⟨-, -, he⟩
  · rw [he]
    exact ⟨hnp, hecho⟩
  · have hl := ((started_restart respond (f.backoff.nextAttempt r.retries) _).upkeep hr.and.1 hn).2
    have hs : (f.setReconnect n .finished).Steers
        (restart respond (f.backoff.nextAttempt r.retries) (f.setReconnect n .finished)) := by
      refine steers_startWhere hr.and.2 hn fun ha => ?_
      have hrec : (f.setReconnect n .finished).status = .reconnecting := by simpa using ha
      rw [hrec]
      simp
    rw [he]
    exact ⟨hnp.steers hl hs, hecho.trans hs.echoes⟩

/-- Every step leaves everything in its place, if the caller holds on to the feed where that is
asked for, and publishes every change of the status that it makes. -/
theorem Stepped.placed {event : Event} (hs : Stepped respond f event f') (h : f.Placed held)
    (hf : f.WellFormed may) (hheld : held → event ≠ .call .release) :
    f'.Placed held ∧ f.Echoes event.given f' := by
  have hturn : ∀ task : Option Task, { f with current := task }.Placed held :=
    fun _ => h.congr rfl
  cases hs with
  | called call =>
    exact placed_doCall hr (hturn none) hf.noTurn fun hh hc => hheld hh (congrArg Event.call hc)
  | @looped k _ _ hk _ hrun =>
    have hp := hturn (some (.loop k.epoch))
    have hb := fun hw => hf.setCurrentLoop hk hw
    obtain ⟨hrp, hecho⟩ := hrun.placed hr hp hb hk fun j hj he => hf.eq_of_epoch_eq hj hk he
    exact ⟨hrp, hecho⟩
  | @watched k _ _ hk _ hrun =>
    have hp := hturn (some (.watch k.epoch))
    have hb := hf.turn (.watch k.epoch) (by simp)
    obtain ⟨hrp, hecho⟩ := hrun.placed hr hp hb hk
    exact ⟨hrp, hecho⟩
  | @reconnectBegan n r =>
    have hb := hf.turn (.reconnect n) (by simp)
    have hl := leads_beginReconnect hr.and.2 n r hb
    obtain ⟨-, k, phase, he, -, hlater⟩ := upkeep_beginReconnect hr.and.1 n r hb
    rw [he] at hl ⊢
    have hk : { f with current := some (.reconnect n) }.Leads k := hl.ends rfl (.inl rfl)
    exact ⟨((hturn _).steers hlater hk.steers).congr rfl, hl.echoes⟩
  | @reconnectEnded n r _ epoch =>
    exact placed_endReconnect hr (hturn _) (hf.turn (.reconnect n) (by simp)) n epoch r
  | @disconnectBegan n d hd hp =>
    have hb := hf.turn (.disconnect n) (by simp)
    have hl := leads_beginDisconnect hr.and.1 hr.and.2 n hb
    obtain ⟨-, k, phase, he, hlater⟩ := upkeep_beginDisconnect hr.and.1 n hb ⟨d, hd, hp⟩
    rw [he] at hl ⊢
    have hk : { f with current := some (.disconnect n) }.Leads k := hl.ends rfl (.inl rfl)
    exact ⟨((hturn _).steers hlater hk.steers).congr rfl, hl.echoes⟩
  | @disconnectJoined n =>
    exact placed_endDisconnect hr (hturn _) (hf.turn (.disconnect n) (by simp)) n
  | @disconnectAbandoned n d epoch deadline hd hp =>
    have hb := hf.turn (.disconnect n) (by simp)
    have hlog := hb.log .warn "Read loop did not close in time, aborting"
      [("timeout_ms", toString f.settings.shutdownTimeout.millisCounter.toNat)]
    have hlp : ({ f with current := some (.disconnect n) }.log .warn
        "Read loop did not close in time, aborting"
        [("timeout_ms", toString f.settings.shutdownTimeout.millisCounter.toNat)]).Placed held :=
      h.congr rfl
    have hab := hlog.abandon (hf.joining n d hd epoch deadline hp).past
    obtain ⟨hend, hecho⟩ := placed_endDisconnect hr (hlp.abandon epoch) hab n
    exact ⟨hend, hecho⟩
  | @refreshed n _ _ hb => exact ⟨(hturn (some (.refresh n))).busy hb, hb.echoes⟩
  | ticked => exact ⟨h.congr rfl, .of_eq rfl⟩
  | reconnectGivenUp => exact ⟨h.congr rfl, .of_eq rfl⟩
  | disconnectGivenUp => exact ⟨h.congr rfl, .of_eq rfl⟩

end Steady

/-! ### Runs -/

/-- Everything is in its place in every feed that is reached, and the caller has held on to the feed
where that is asked for. -/
lemma Reachable.placed {depth : Nat} {allowed : Feed → Event → Prop}
    (hr : Reachable depth allowed f)
    (hheld : held → ∀ g event, allowed g event → event ≠ .call .release) :
    f.WellFormed Conduct.free ∧ f.Placed held := by
  refine hr.invariant (Placed held) (fun _ event _ => event.keeps_free)
    (fun _ _ _ h => placed_of_ofSettings h) fun g event h hg ha hp hs => ?_
  exact ((stepped_of_step? hg hs).placed ((conducted_steers .free).respond depth) hp hg
    fun hh => hheld hh g event ha).1

/-- A step publishes the statuses that the caller gives it to publish past the feed, and after them
the changes that it makes, each of them once and in their order. -/
lemma Reachable.echoes {depth : Nat} {event : Event} (hr : Reachable depth anyEvent f)
    (hs : f.step? depth event = some f') : f.Echoes event.given f' := by
  obtain ⟨hf, hp⟩ : f.WellFormed Conduct.free ∧ f.Placed False := hr.placed False.elim
  exact ((stepped_of_step? hf hs).placed ((conducted_steers .free).respond depth) hp hf
    False.elim).2

/-- Whatever callers and subscribers ask for, and in whatever order tasks run, the statuses of a
feed follow its lifecycle from the one of a feed that has not been started to the current one. Each
step publishes its changes, each of them once and in their order, and no other status unless the
caller gives it one to publish past the feed. So as long as the caller does not do that, what has
been published are the changes of the status. -/
theorem statuses_follow {depth : Nat} :
    (∀ {f : Feed}, Reachable depth anyEvent f →
      f.statuses.IsChain (fun t s => s.Follows t) ∧ f.statuses.head? = some f.status) ∧
    (∀ {f f' : Feed} {event : Event}, Reachable depth anyEvent f →
      f.step? depth event = some f' → f.Echoes event.given f') ∧
    (∀ {f : Feed}, Reachable depth (fun _ event => event.given = []) f →
      f.published = f.changes) := by
  refine ⟨fun {f} hr => ?_, fun hr hs => hr.echoes hs, fun {f} hr => ?_⟩
  · obtain ⟨-, hp⟩ : f.WellFormed Conduct.free ∧ f.Placed False := hr.placed False.elim
    exact ⟨hp.lawful.path, hp.lawful.latest⟩
  · have hboth : f.WellFormed Conduct.free ∧ (f.Placed False ∧ f.published = f.changes) := by
      refine hr.invariant (fun f => f.Placed False ∧ f.published = f.changes)
        (fun _ event _ => event.keeps_free) (fun _ _ f₀ h => ⟨placed_of_ofSettings h, ?_⟩)
        fun g event h hg ha hi hs => ?_
      · obtain ⟨request, rfl⟩ := eq_of_ofSettings h
        rfl
      · obtain ⟨hp, news, hc, hpub⟩ := (stepped_of_step? hg hs).placed
          ((conducted_steers .free).respond depth) hi.1 hg False.elim
        refine ⟨hp, ?_⟩
        rw [hc, hpub, ha, hi.2]
        rfl
    exact hboth.2.2

/-- A feed whose connection is lost, with a subscriber that stops it when it is told so; and what
happens when the caller publishes a status past that feed. -/
theorem statuses_follow_instances :
    ∃ f : Feed, f.status = .stopUpdates ∧
      f.published = [.stopUpdates, .lostConnection, .connected, .initializing] ∧
      f.published = f.changes ∧
      f.statuses.IsChain (fun t s => s.Follows t) ∧ f.statuses.head? = some f.status ∧
      ∃ f' : Feed, f'.published = .connected :: f.published ∧ f.Echoes [.connected] f' := by
  let stops : Handler := answering (.status .lostConnection) .stop
  let events : List Event :=
    [.call (.subscribe .status "stops" stops), .call (.start 0), .run (.loop 1) .first,
      .run (.loop 1) (.connected 0), .run (.loop 1) .ended]
  let past : Event := .call (.publishStatus .connected)
  have hplay : (played? 1 events).map (fun f => (f.status, f.published,
      (f.step? 1 past).map Feed.published)) =
      some (.stopUpdates, [.stopUpdates, .lostConnection, .connected, .initializing],
        some [.connected, .stopUpdates, .lostConnection, .connected, .initializing]) := by
    decide +kernel
  obtain ⟨f, hf, hshown⟩ := Option.map_eq_some_iff.1 hplay
  simp only [Prod.mk.injEq] at hshown
  obtain ⟨hstatus, hpub, hpast⟩ := hshown
  obtain ⟨f', hf', hpub'⟩ := Option.map_eq_some_iff.1 hpast
  have hany : Reachable 1 anyEvent f := .of_played? hf fun _ _ _ => trivial
  have hgiven : Reachable 1 (fun _ event => event.given = []) f := by
    refine .of_played? hf fun event he _ => ?_
    simp only [events, List.mem_cons, List.not_mem_nil, or_false] at he
    obtain rfl | rfl | rfl | rfl | rfl := he <;> rfl
  obtain ⟨hpath, hstep, hsame⟩ := @statuses_follow 1
  exact ⟨f, hstatus, hpub, hsame hgiven, (hpath hany).1, (hpath hany).2, f', by rw [hpub', hpub],
    hstep hany hf'⟩

end Feed

end EventFeed
