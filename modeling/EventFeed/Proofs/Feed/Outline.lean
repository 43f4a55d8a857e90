import EventFeed.Proofs.Feed.Placement
import EventFeed.Proofs.Feed.Turns

/-!
# Steps in outline

For much of what can be said of a feed it is enough to know its status with all changes of it, the
epoch, the slot, the session that is installed, how far disconnects have got and which of them the
caller has given up. `Outline` is that much. Most turns of a read loop leave the outline alone, and
so do the clock, most turns of a guardian and whatever is only noted. What is left for a step to do
is one thing: an operation, a publication, the report of a loss, the opening of a session or the
refusal of one. `Acts` tells these apart, by the event with which they come.
-/

namespace EventFeed

/-- A feed without its tasks, its subscribers and its connections. -/
structure Outline where
  status : ConnectionState
  changes : List ConnectionState
  published : List ConnectionState
  epoch : Nat
  slot : Option Nat
  installed : Option Nat
  stage : Nat → DisconnectPhase
  dropped : Nat → Bool

namespace Feed

variable {may : Conduct} {respond : Respond} {f f' g : Feed}

/-- How far the disconnect of a number has got. One that nobody has asked for yet is waiting. -/
def stage (f : Feed) (n : Nat) : DisconnectPhase :=
  ((f.disconnects[n]?).map Disconnect.phase).getD .waiting

/-- Whether the caller has given up the disconnect of a number. -/
def dropped (f : Feed) (n : Nat) : Bool :=
  ((f.disconnects[n]?).map Disconnect.aborted).getD false

/-- What there is of a feed in outline. -/
def outline (f : Feed) : Outline where
  status := f.status
  changes := f.changes
  published := f.published
  epoch := f.epoch
  slot := f.slot
  installed := f.installed
  stage := f.stage
  dropped := f.dropped

/-- What a step does to the feed in outline, by the event with which it comes. -/
inductive Acts (respond : Respond) (f : Feed) : Event → Feed → Prop
  | idle (event : Event) : Acts respond f event f
  | started (retries : UInt32) : Acts respond f (.call (.start retries)) (f.start respond retries)
  | stopped : Acts respond f (.call .stop) (f.stop respond)
  | released : Acts respond f (.call .release) f.release
  | saidStatus (s : ConnectionState) :
      Acts respond f (.call (.publishStatus s)) (publishStatus respond s f).2
  | saidEvent (e : RoutedEvent) :
      Acts respond f (.call (.publishEvent e)) (publishEvent respond e f).2
  | relayed {epoch : Nat} {frame : Inbound} (e : RoutedEvent) :
      Acts respond f (.run (.loop epoch) (.frame frame)) (publishEvent respond e f).2
  | lost {task : Task} {wake : Wake} {g : Feed}
      (htask : task = .loop f.epoch ∨ task = .watch f.epoch)
      (hs : f.status = .initializing ∨ f.status = .connected) (hslot : f.slot = some f.epoch)
      (ht : Told respond .lostConnection f g) : Acts respond f (.run task wake) g
  | opened {socket : Nat} {g : Feed} (hs : f.status = .initializing)
      (hslot : f.slot = some f.epoch) (ht : Told respond .connected (f.install f.epoch) g) :
      Acts respond f (.run (.loop f.epoch) (.connected socket)) g
  | refused {socket : Nat} :
      Acts respond f (.run (.loop f.epoch) (.connected socket)) { f with installed := none }
  | reconnected {n : Nat} {r : Reconnect} (hr : f.reconnects[n]? = some r) :
      Acts respond f (.run (.reconnect n) .first) (f.beginReconnect respond n r)
  | restarted {n : Nat} {retries : UInt32} (hs : f.status = .reconnecting) :
      Acts respond f (.run (.reconnect n) .elapsed) (restart respond retries f)
  | disconnectBegan {n : Nat} (hn : ∃ d, f.disconnects[n]? = some d ∧ d.phase = .waiting) :
      Acts respond f (.run (.disconnect n) .first) (f.beginDisconnect respond n)
  | disconnectEnded {n e : Nat} {t : Duration} {wake : Wake} (hn : f.stage n = .joining e t) :
      Acts respond f (.run (.disconnect n) wake) (f.endDisconnect respond n)
  | givenUp {n : Nat} :
      Acts respond f (.giveUp (.disconnect n))
        { f with disconnects := f.disconnects.modify n fun d => { d with aborted := true } }

/-- From `f` to `g` there is nothing to be seen in outline but what an act does. Before the act the
bookkeeping is in order, and the event comes with the same operation. -/
def Performs (may : Conduct) (respond : Respond) (event : Event) (f g : Feed) : Prop :=
  ∃ k k', k.WellFormed may ∧ k.outline = f.outline ∧ k.operation? event = f.operation? event ∧
    Acts respond k event k' ∧ g.outline = k'.outline

/-! ### What leaves the outline alone -/

/-- Of feeds of one engine there is the same in outline. -/
lemma outline_of_engine (he : g.engine = f.engine) : g.outline = f.outline := by
  unfold outline
  rw [eq_of_engine he Feed.changes fun k => changes_engine k,
    eq_of_engine he Feed.published fun k => published_engine k,
    eq_of_engine he Feed.status fun _ => rfl, eq_of_engine he Feed.epoch fun _ => rfl,
    eq_of_engine he Feed.slot fun _ => rfl, eq_of_engine he Feed.installed fun _ => rfl,
    eq_of_engine he Feed.stage fun _ => rfl, eq_of_engine he Feed.dropped fun _ => rfl]

/-- Work of read loops leaves the outline alone. -/
lemma Busy.outline (hb : f.Busy g) : g.outline = f.outline := by
  have hchanges := hb.changes
  have hpublished := hb.published
  obtain ⟨_, _, _, _, _, rfl⟩ := hb.rest
  unfold Feed.outline
  rw [hchanges, hpublished]
  rfl

/-- A read loop that waits for the next frame leaves the outline alone. -/
lemma outline_awaitFrame (e socket : Nat) (f : Feed) :
    (f.awaitFrame e socket).outline = f.outline := rfl

/-- A disconnect of a number that has been given. -/
lemma stage_eq {n : Nat} {d : Disconnect} (hd : f.disconnects[n]? = some d) :
    f.stage n = d.phase := by
  simp [stage, hd]

/-- A disconnect that has begun is one that has been asked for. -/
lemma exists_of_stage {n : Nat} (h : f.stage n ≠ .waiting) :
    ∃ d, f.disconnects[n]? = some d ∧ d.phase = f.stage n := by
  cases hd : f.disconnects[n]? with
  | none => exact absurd (by simp [stage, hd]) h
  | some d => exact ⟨d, rfl, (stage_eq hd).symm⟩

/-- A disconnect that is asked for is like one that nobody has asked for yet. -/
lemma getD_addDisconnect {α : Type} (c : Disconnect → α) (f : Feed) (n : Nat) :
    ((f.addDisconnect.2.disconnects[n]?).map c).getD (c {}) =
      ((f.disconnects[n]?).map c).getD (c {}) := by
  unfold addDisconnect
  dsimp only
  rw [List.getElem?_append]
  split
  · rfl
  · next h =>
    rw [List.getElem?_eq_none (Nat.le_of_not_lt h)]
    cases hd : ([{}] : List Disconnect)[n - f.disconnects.length]? with
    | none => rfl
    | some d =>
      obtain rfl := List.mem_singleton.1 (List.mem_of_getElem? hd)
      rfl

/-- A disconnect that is asked for leaves the outline alone. -/
lemma outline_addDisconnect (f : Feed) : f.addDisconnect.2.outline = f.outline := by
  have hstage : f.addDisconnect.2.stage = f.stage :=
    funext fun n => getD_addDisconnect Disconnect.phase f n
  have hdropped : f.addDisconnect.2.dropped = f.dropped :=
    funext fun n => getD_addDisconnect Disconnect.aborted f n
  unfold outline
  rw [hstage, hdropped]
  rfl

/-- A disconnect that is given up is no further than it was. -/
lemma stage_giveUp (n : Nat) :
    { f with
      disconnects := f.disconnects.modify n fun d => { d with aborted := true } }.stage =
      f.stage := by
  funext m
  unfold stage
  dsimp only
  rw [List.getElem?_modify]
  cases f.disconnects[m]? with
  | none => rfl
  | some d =>
    simp only [Option.map_eq_map, Option.map_some, Option.getD_some]
    split <;> rfl

/-- A disconnect that goes on leaves the others where they are. -/
lemma stage_setDisconnect {n m : Nat} (phase : DisconnectPhase) (hm : m ≠ n) :
    (f.setDisconnect n phase).stage m = f.stage m := by
  simp [stage, setDisconnect, Ne.symm hm]

/-- A disconnect that has been asked for goes on to a phase. -/
lemma stage_setDisconnect_self {n : Nat} (phase : DisconnectPhase)
    (hn : n < f.disconnects.length) : (f.setDisconnect n phase).stage n = phase := by
  simp [stage, setDisconnect, hn]

/-- Statuses are on their path if they are in outline. -/
lemma Lawful.outline (h : f.Lawful) (he : g.outline = f.outline) : g.Lawful :=
  h.congr (Prod.ext (congrArg Outline.status he) (congrArg Outline.changes he))
    (.inl (congrArg Outline.slot he))

/-- What is lost has been connected, or it has been connecting. -/
lemma Lawful.losing (h : f.Lawful) (hh : f.status.isHalted = false)
    (hs : f.status ≠ .lostConnection) (hslot : f.slot = some f.epoch) :
    f.status = .initializing ∨ f.status = .connected := by
  obtain ⟨hn, hrec⟩ := h.held (by simp [hslot])
  have hfail := h.ne_reconnectFailed
  revert hh hs hn hrec hfail
  cases f.status <;> decide

/-! ### Turns of a generation -/

/-- What leaves the outline alone is idle. -/
lemma performs_idle {event : Event} (hf : f.WellFormed may) (he : g.outline = f.outline) :
    Performs may respond event f g :=
  ⟨f, f, hf, rfl, rfl, .idle event, he⟩

/-- A report of a loss is in vain, or the feed says so. -/
lemma performs_connectionLost {k : Feed} {task : Task} {wake : Wake} {e : Nat}
    (hk : k.WellFormed may) (hf : f.WellFormed may) (hp : f.Lawful) (hkf : k.outline = f.outline)
    (htask : task = .loop e ∨ task = .watch e) (hgen : ∃ i ∈ k.generations, i.epoch = e)
    (retries : UInt32) :
    Performs may respond (.run task wake) f (k.connectionLost respond e retries) := by
  rcases connectionLost_cases respond e retries k with ⟨-, he⟩ | ⟨hs, hlive, g, ht, he⟩
  · rw [he]
    exact performs_idle hf hkf
  obtain ⟨hh, rfl⟩ : k.status.isHalted = false ∧ k.epoch = e := by simpa [isLive] using hlive
  obtain ⟨i, hi, hie⟩ := hgen
  have hslot := hk.slot_of_epoch_eq hi hie
  refine ⟨k, g, hk, hkf, ?_, .lost htask ((hp.outline hkf).losing hh hs hslot) hslot ht, ?_⟩
  · rcases htask with rfl | rfl <;> rfl
  · rw [he]
    rcases scheduleReconnect_cases k.epoch retries g with ⟨-, hsch⟩ | ⟨-, -, hsch⟩
    · rw [hsch]
    · rw [hsch]
      rfl

/-- A socket that has been opened is closed again, or the feed is connected. -/
lemma performs_loopConnected {k : Feed} {i : Generation} {socket : Nat} (hk : k.WellFormed may)
    (hp : k.Placed False) (hf : f.WellFormed may) (hkf : k.outline = f.outline)
    (hi : i ∈ k.generations) (hrank : i.loop.rank < 2) :
    Performs may respond (.run (.loop i.epoch) (.connected socket)) f
      (k.loopConnected respond i.epoch socket) := by
  have hmem : (i.epoch, i.loop) ∈ k.loops := List.mem_map_of_mem hi
  obtain ⟨j, hb, ⟨hl, -⟩, hj⟩ := loopConnected_cases respond i.epoch socket k
  have hjf : j.outline = f.outline := hb.outline.trans hkf
  have hjw := hk.busy hb
  rcases hj with ⟨-, he⟩ | ⟨hje, -, he⟩ | ⟨hje, -, hh, g, ht, he⟩
  · rw [he]
    exact performs_idle hf hjf
  · rw [he, ← hje]
    exact ⟨j, _, hjw, hjf, rfl, .refused, rfl⟩
  · obtain ⟨i', hi', hie⟩ := hb.exists_generation hi
    have hij := hie.trans hje.symm
    have hlt : i'.loop.rank < 2 :=
      Nat.lt_succ_of_le (hjw.rank_of_later (.refl j) (hl.symm ▸ hmem) (Nat.le_of_lt_succ hrank)
        i' hi' hie)
    have hinit := (hp.busy hb).initializing hjw hi' hij hlt hh
    rw [he, ← hje]
    refine ⟨j, g, hjw, hjf, rfl, .opened hinit (hjw.slot_of_epoch_eq hi' hij) (hje ▸ ht), ?_⟩
    exact (outline_awaitFrame _ _ _).trans (outline_of_engine (engine_log g _ _ _))

/-- A frame is noted, or an event is published. -/
lemma performs_loopFrame {k : Feed} {e socket : Nat} {frame : Inbound}
    (hframe : ∀ info, frame ≠ .close info) (hk : k.WellFormed may) (hf : f.WellFormed may)
    (hkf : k.outline = f.outline) :
    Performs may respond (.run (.loop e) (.frame frame)) f
      (k.loopFrame respond e socket frame) := by
  cases frame with
  | close info => exact absurd rfl (hframe info)
  | text raw =>
    rcases dispatch_cases respond e raw k with hb | ⟨j, event, hb, -, he⟩
    · exact performs_idle hf (hb.outline.trans hkf)
    · refine ⟨j, _, hk.busy hb, hb.outline.trans hkf, rfl, .relayed event, ?_⟩
      have hframe : k.loopFrame respond e socket (.text raw) =
        (k.dispatch respond e raw).awaitFrame e socket := rfl
      rw [hframe, he]
      exact outline_awaitFrame _ _ _
  | binary bytes =>
    have hlog := outline_of_engine (engine_log k .warn "Ignoring unexpected binary frame"
      [epochField e, ("len", toString bytes.length)])
    exact performs_idle hf ((outline_awaitFrame _ _ _).trans (hlog.trans hkf))
  | ping => exact performs_idle hf hkf
  | pong => exact performs_idle hf hkf

/-- What the turn of a read loop does in outline. -/
lemma LoopTurn.performs {i : Generation} {wake : Wake} (hf : f.WellFormed may)
    (hp : f.Placed False) (hi : i ∈ f.generations)
    (ht : LoopTurn respond i { f with current := some (.loop i.epoch) } wake f') :
    Performs may respond (.run (.loop i.epoch) wake) f f' := by
  have hturn : i.loop ≠ .waiting →
      { f with current := some (.loop i.epoch) }.WellFormed may := hf.setCurrentLoop hi
  cases ht with
  | began => exact performs_idle hf rfl
  | opened h socket =>
    have hplaced : { f with current := some (.loop i.epoch) }.Placed False := hp.congr rfl
    exact performs_loopConnected (hturn (by simp [h])) hplaced hf rfl hi
      (by simp [h, LoopPhase.rank])
  | @failed _ e h =>
    have hw : i.loop ≠ .waiting := by
      intro hw
      simp [Generation.failure?, hw] at h
    have heng := engine_loopFailed i.epoch e { f with current := some (.loop i.epoch) }
    have hgen := eq_of_engine heng Feed.generations fun _ => rfl
    refine performs_connectionLost ((hturn hw).loopFailed i.epoch e) hf
      hp.lawful ((outline_of_engine heng).trans rfl) (.inl rfl) ?_ _
    rw [hgen]
    exact ⟨_, List.mem_map_of_mem hi, by simp⟩
  | received h hframe => exact performs_loopFrame hframe (hturn (by simp [h])) hf rfl
  | left => exact performs_idle hf rfl
  | closing => exact performs_idle hf rfl
  | closed => exact performs_idle hf rfl
  | panicked => exact performs_idle hf rfl

/-- What the turn of a guardian does in outline. -/
lemma WatchTurn.performs {i : Generation} {wake : Wake} (hf : f.WellFormed may)
    (hp : f.Lawful) (hi : i ∈ f.generations)
    (ht : WatchTurn respond i { f with current := some (.watch i.epoch) } wake f') :
    Performs may respond (.run (.watch i.epoch) wake) f f' := by
  have hturn := hf.turn (.watch i.epoch) (by simp)
  cases ht with
  | began => exact performs_idle hf rfl
  | ended => exact performs_idle hf rfl
  | reported =>
    exact performs_connectionLost (hturn.setWatch i.epoch .finished) hf hp rfl (.inr rfl)
      ⟨_, List.mem_map_of_mem hi, by simp⟩ _
  | slept => exact performs_idle hf rfl

/-! ### Steps -/

/-- What a call of the caller does in outline. -/
lemma performs_call (hf : f.WellFormed may) (call : Call) :
    Performs may respond (.call call) f ({ f with current := none }.doCall respond call) := by
  have hn := hf.noTurn
  have same : ∀ {k'}, Acts respond { f with current := none } (.call call) k' →
      Performs may respond (.call call) f k' :=
    fun ha => ⟨_, _, hn, rfl, by cases call <;> rfl, ha, rfl⟩
  cases call with
  | start retries => exact same (.started retries)
  | stop => exact same .stopped
  | reconnect delay retries => exact performs_idle hf rfl
  | disconnect =>
    have hadd := outline_addDisconnect { f with current := none }
    exact performs_idle hf (hadd.trans rfl)
  | subscribe target name handler =>
    have he := engine_subscribe { f with current := none } target name handler
    exact performs_idle hf ((outline_of_engine he).trans rfl)
  | unsubscribe handle =>
    have he := engine_unsubscribe { f with current := none } handle
    exact performs_idle hf ((outline_of_engine he).trans rfl)
  | publishStatus s => exact same (.saidStatus s)
  | publishEvent e => exact same (.saidEvent e)
  | release => exact same .released

/-- What a step does in outline. -/
theorem performs_of_step? {depth : Nat} {event : Event} (hf : f.WellFormed may)
    (hp : f.Placed False) (hs : f.step? depth event = some f') :
    Performs may (Feed.respond depth) event f f' := by
  cases stepped_of_step? hf hs with
  | called call => exact performs_call hf call
  | looped =>
    obtain ⟨i, hi, he, -, ht⟩ := loopTurn_of_step? hf hs
    rw [← he] at ht ⊢
    exact ht.performs hf hp hi
  | watched =>
    obtain ⟨i, hi, he, -, ht⟩ := watchTurn_of_step? hf hs
    rw [← he] at ht ⊢
    exact ht.performs hf hp.lawful hi
  | @reconnectBegan n r hr =>
    exact ⟨_, _, hf.turn (.reconnect n) (by simp), rfl, rfl, .reconnected hr, rfl⟩
  | @reconnectEnded n r deadline epoch =>
    have hn : ({ f with current := some (.reconnect n) }.setReconnect n .finished).WellFormed may :=
      (hf.turn (.reconnect n) (by simp)).setReconnect (by simp) n
    rcases endReconnect_cases (Feed.respond depth) n epoch r
      { f with current := some (.reconnect n) } with ⟨-, he⟩ | ⟨-, hrec, he⟩
    · rw [he]
      exact performs_idle hf rfl
    · rw [he]
      exact ⟨_, _, hn, rfl, rfl, .restarted hrec, rfl⟩
  | @disconnectBegan n d hd hp =>
    exact ⟨_, _, hf.turn (.disconnect n) (by simp), rfl, rfl,
      .disconnectBegan ⟨d, hd, hp⟩, rfl⟩
  | @disconnectJoined n d epoch deadline hd hp =>
    exact ⟨_, _, hf.turn (.disconnect n) (by simp), rfl, rfl,
      .disconnectEnded ((stage_eq hd).trans hp), rfl⟩
  | @disconnectAbandoned n d epoch deadline hd hp =>
    have hn := (hf.turn (.disconnect n) (by simp)).abandonLoop hd hp
    exact ⟨_, _, hn, rfl, rfl, .disconnectEnded ((stage_eq hd).trans hp), rfl⟩
  | refreshed hb => exact performs_idle hf hb.outline
  | ticked => exact performs_idle hf rfl
  | reconnectGivenUp => exact performs_idle hf rfl
  | disconnectGivenUp => exact ⟨_, _, hf.noTurn, rfl, rfl, .givenUp, rfl⟩

/-- What every allowed step keeps, given that everything is in its place, is kept by whole runs. -/
lemma Reachable.keeps_along {depth : Nat} {allowed : Feed → Event → Prop} (Inv : Feed → Prop)
    (hf : Reachable depth anyEvent f) (hr : Reaches depth allowed f g) (hi : Inv f)
    (hs : ∀ k event k', k.WellFormed Conduct.free → k.Placed False → allowed k event → Inv k →
      k.step? depth event = some k' → Inv k') : Inv g := by
  obtain ⟨hw, hp⟩ : f.WellFormed Conduct.free ∧ f.Placed False := hf.placed False.elim
  have hinv : g.WellFormed Conduct.free ∧ (g.Placed False ∧ Inv g) := by
    refine hr.invariant (fun k => k.Placed False ∧ Inv k) hw ⟨hp, hi⟩
      (fun _ event _ => event.keeps_free) ?_
    rintro k event k' hk ha ⟨hkp, hki⟩ hstep
    have hnext := ((stepped_of_step? hk hstep).placed ((conducted_steers .free).respond depth) hkp
      hk False.elim).1
    exact ⟨hnext, hs k event k' hk hkp ha hki hstep⟩
  exact hinv.2.2

end Feed

end EventFeed
