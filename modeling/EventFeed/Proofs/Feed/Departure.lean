import EventFeed.Proofs.Feed.Outline
import EventFeed.Proofs.Feed.Progress
import EventFeed.Proofs.Feed.Refraining
import EventFeed.Proofs.Feed.Traffic
import EventFeed.Proofs.Feed.Undisturbed

/-!
# Disconnects that nobody disturbs

A disconnect says that the feed is disconnecting, lets go of the generation that is held, and waits
until its read loop is at its end or the time for that is up. Then it puts the session away and says
that the feed is disconnected. While it waits the read loop may still connect, take in frames, fail,
or try to close a socket that is never closed; the guardian may wake up, and so may reconnects. None
of them can do anything about it: the epoch in which they could is over, and the feed is halted. So
the disconnect goes through two stages and no other, `Departing` and `Departed`, as long as nobody
else asks for anything.

When it is over no read loop takes a step, because none is held and no disconnect waits for one.
-/

namespace EventFeed

/-- How many epochs an event ends by itself: a reconnect and a disconnect end one when they begin.
-/
def Event.ends : Event → Nat
  | .run (.reconnect _) .first | .run (.disconnect _) .first => 1
  | _ => 0

/-- Subscribers may be told of an event: the caller publishes one, or a frame has arrived. -/
def Event.Publishes : Event → Prop
  | .call (.publishEvent _) | .run (.loop _) (.frame _) => True
  | _ => False

/-- What publishes an event ends no epoch by itself. -/
lemma Event.Publishes.ends {event : Event} (h : event.Publishes) : event.ends = 0 := by
  unfold Event.Publishes at h
  split at h <;> first | rfl | exact h.elim

namespace Outline

variable {n : Nat} {t : Duration} {said : List ConnectionState} {event : Event} {o p : Outline}

/-- The feed has said that it is disconnecting, which is the last that has been said; it holds no
generation, and no disconnect waits but the one of a number. -/
structure Leaving (n : Nat) (said : List ConnectionState) (o : Outline) : Prop where
  status : o.status = .disconnecting
  slot : o.slot = none
  published : o.published = said
  alone : ∀ m ≠ n, ∀ e t, o.stage m ≠ .joining e t

/-- On top of that the disconnect waits for a read loop, at most until an instant, and nobody has
given it up. -/
structure Departing (n : Nat) (t : Duration) (said : List ConnectionState) (o : Outline) : Prop
    extends o.Leaving n said where
  stage : ∃ e, o.stage n = .joining e t
  kept : o.dropped n = false

/-- The disconnect of a number is at its end: the feed is disconnected, it holds neither a
generation nor a session, and no disconnect waits. -/
structure Departed (n : Nat) (said : List ConnectionState) (o : Outline) : Prop where
  status : o.status = .disconnected
  slot : o.slot = none
  installed : o.installed = none
  published : o.published = said
  stage : o.stage n = .finished
  alone : ∀ m e t, o.stage m ≠ .joining e t

/-- An event has left alone what disconnects depend on: no status has been said, and no disconnect
has gone on. -/
structure Steady (event : Event) (o p : Outline) : Prop where
  status : p.status = o.status
  slot : p.slot = o.slot
  installed : p.installed = o.installed ∨ p.installed = none
  published : p.published = o.published
  stage : p.stage = o.stage
  dropped : ∀ m, event ≠ .giveUp (.disconnect m) → p.dropped m = o.dropped m

lemma Steady.refl (event : Event) (o : Outline) : o.Steady event o :=
  ⟨rfl, rfl, .inl rfl, rfl, rfl, fun _ _ => rfl⟩

/-- A disconnect goes on waiting if what it depends on is left alone. -/
lemma Departing.steady (h : o.Departing n t said) (hs : o.Steady event p)
    (hn : event ≠ .giveUp (.disconnect n)) : p.Departing n t said where
  status := hs.status.trans h.status
  slot := hs.slot.trans h.slot
  published := hs.published.trans h.published
  alone := by
    rw [hs.stage]
    exact h.alone
  stage := by
    rw [hs.stage]
    exact h.stage
  kept := (hs.dropped n hn).trans h.kept

/-- A disconnect stays at its end if what it depends on is left alone. -/
lemma Departed.steady (h : o.Departed n said) (hs : o.Steady event p) : p.Departed n said where
  status := hs.status.trans h.status
  slot := hs.slot.trans h.slot
  installed := by
    rcases hs.installed with hi | hi
    · exact hi.trans h.installed
    · exact hi
  published := hs.published.trans h.published
  stage := by
    rw [hs.stage]
    exact h.stage
  alone := by
    rw [hs.stage]
    exact h.alone

end Outline

namespace Feed

variable {may : Conduct} {respond : Respond} {f f' g : Feed} {n : Nat} {t : Duration}
  {said : List ConnectionState} {event : Event}

/-! ### Nobody disturbs the feed -/

/-- The caller asks for nothing with an event: it is no operation, publishes no status past the feed
and does not let go of it. -/
structure Uncalled (f : Feed) (event : Event) : Prop where
  operation : f.operation? event = none
  given : event.given = []
  held : event ≠ .call .release

/-- Subscribers ask for nothing in answer to an event. They cannot ask for anything but that it
ends an epoch, unless it is refused; so no more epochs end than the event ends by itself. -/
def Unanswered (depth : Nat) (f : Feed) (event : Event) : Prop :=
  ∀ f', f.step? depth event = some f' → f'.epoch = f.epoch + event.ends

/-- Nobody disturbs the disconnect of a number with an event. -/
structure Undisturbed (depth n : Nat) (f : Feed) (event : Event) : Prop
    extends f.Uncalled event where
  unanswered : f.Unanswered depth event
  kept : event ≠ .giveUp (.disconnect n)

/-- Nobody asks the feed for anything with an event, neither the caller nor a subscriber that is
told of an event that the caller publishes. -/
structure Unasked (depth : Nat) (f : Feed) (event : Event) : Prop extends f.Uncalled event where
  unanswered : ∀ e, event = .call (.publishEvent e) → f.Unanswered depth event

/-- What acts are left in a halted feed of which the caller asks nothing. -/
inductive Background (respond : Respond) (f : Feed) : Event → Feed → Prop
  | idle (event : Event) : Background respond f event f
  | said (e : RoutedEvent) :
      Background respond f (.call (.publishEvent e)) (publishEvent respond e f).2
  | relayed {epoch : Nat} {frame : Inbound} (e : RoutedEvent) :
      Background respond f (.run (.loop epoch) (.frame frame)) (publishEvent respond e f).2
  | refused {event : Event} : Background respond f event { f with installed := none }
  | dropped (n : Nat) :
      Background respond f (.run (.reconnect n) .first) (f.haltTasks.setReconnect n .finished)
  | ended {n e : Nat} {t : Duration} {wake : Wake} (hn : f.stage n = .joining e t) :
      Background respond f (.run (.disconnect n) wake) (f.endDisconnect respond n)
  | givenUp (n : Nat) :
      Background respond f (.giveUp (.disconnect n))
        { f with disconnects := f.disconnects.modify n fun d => { d with aborted := true } }

/-- The statuses that have been published when the feed has said that it is disconnecting, which it
does not say twice. -/
def parting (f : Feed) : List ConnectionState :=
  if f.status = .disconnecting then f.published else .disconnecting :: f.published

/-- A disconnect that is given up leaves alone whether others have been. -/
lemma dropped_giveUp {m : Nat} (hm : m ≠ n) :
    { f with
      disconnects := f.disconnects.modify n fun d => { d with aborted := true } }.dropped m =
      f.dropped m := by
  simp [dropped, Ne.symm hm]

/-- A disconnect that goes on leaves alone whether others have been given up, or it itself. -/
lemma dropped_setDisconnect (f : Feed) (n : Nat) (phase : DisconnectPhase) :
    (f.setDisconnect n phase).dropped = f.dropped := by
  funext m
  unfold dropped setDisconnect
  dsimp only
  rw [List.getElem?_modify]
  cases f.disconnects[m]? with
  | none => rfl
  | some d =>
    simp only [Option.map_eq_map, Option.map_some, Option.getD_some]
    split <;> rfl

/-- A disconnect that goes on to wait for a read loop, after the feed has said so. -/
lemma departing_setDisconnect (h : f.outline.Leaving n said) (hn : n < f.disconnects.length)
    (hkept : f.dropped n = false) (e : Nat) (t : Duration) :
    (f.setDisconnect n (.joining e t)).outline.Departing n t said where
  status := h.status
  slot := h.slot
  published := h.published
  alone m hm := by
    show ∀ e' t', (f.setDisconnect n (.joining e t)).stage m ≠ .joining e' t'
    rw [stage_setDisconnect _ hm]
    exact h.alone m hm
  stage := ⟨e, stage_setDisconnect_self _ hn⟩
  kept := by
    show (f.setDisconnect n (.joining e t)).dropped n = false
    rw [dropped_setDisconnect]
    exact hkept

/-- In a halted feed of which the caller asks nothing, what is to be seen in outline is an event
that is published, a session that is refused, or the end of a reconnect or a disconnect. -/
lemma Acts.background (ha : Acts respond f event g) (hh : f.status.isHalted = true)
    (hu : f.Uncalled event) : Background respond f event g := by
  have hlive : f.status ≠ .initializing ∧ f.status ≠ .connected ∧ f.status ≠ .reconnecting := by
    revert hh
    cases f.status <;> decide
  obtain ⟨hinit, hconn, hrec⟩ := hlive
  cases ha with
  | idle => exact .idle _
  | started => exact absurd hu.operation (by simp [operation?])
  | stopped => exact absurd hu.operation (by simp [operation?])
  | released => exact absurd rfl hu.held
  | saidStatus => exact absurd hu.given (by simp [Event.given])
  | saidEvent e => exact .said e
  | relayed e => exact .relayed e
  | lost _ hs => exact absurd hs (not_or.2 ⟨hinit, hconn⟩)
  | opened hs => exact absurd hs hinit
  | refused => exact .refused
  | @reconnected n r hn =>
    have hop := hu.operation
    have hsch : r.scheduled = true := by simpa [operation?, hn] using hop
    rcases beginReconnect_cases respond n r f with ⟨-, -, hdrop⟩ | ⟨hno, -⟩
    · rw [hdrop]
      exact .dropped n
    · exact absurd (hh.symm.trans (hno hsch)) (by simp)
  | restarted hs => exact absurd hs hrec
  | disconnectBegan => exact absurd hu.operation (by simp [operation?])
  | disconnectEnded hn => exact .ended hn
  | givenUp => exact .givenUp _

/-- If no epoch has ended since an announcement, the announcement is all there is. -/
lemma Told.engine_eq {s : ConnectionState} (ht : Told respond s f g)
    (hr : Respects (WellFormed may) (fun _ => Passes) respond) (hf : f.WellFormed may)
    (he : g.epoch = f.epoch) : g.engine = (f.announce s).engine := by
  refine (ht.passes hr hf).resolve_left fun hlt => ?_
  have hsame : (f.announce s).epoch = g.epoch := he.symm
  exact absurd hsame (Nat.ne_of_lt hlt)

section Steps

variable (hr : Respects (WellFormed may) (fun _ => Passes) respond)

include hr

/-! ### The two parts of a disconnect -/

/-- A disconnect that is not answered is at its end after its last part. -/
lemma departed_endDisconnect (hf : f.WellFormed may) (hn : n < f.disconnects.length)
    (h : f.outline.Leaving n said) (he : (f.endDisconnect respond n).epoch = f.epoch) :
    (f.endDisconnect respond n).outline.Departed n (.disconnected :: said) := by
  obtain ⟨k, hk, hend⟩ := endDisconnect_cases respond n f
  have hi : { f with installed := none }.WellFormed may := hf.uninstall
  rw [hend] at he ⊢
  rcases hk with ⟨hs, -⟩ | ⟨-, ht⟩
  · exact absurd (h.status.symm.trans hs) (by simp)
  have heng := ht.engine_eq hr hi he
  have hlen : n < k.disconnects.length := by
    rw [eq_of_engine heng Feed.disconnects fun _ => rfl]
    exact hn
  have hout := outline_of_engine heng
  have hstage : k.stage = f.stage := congrArg Outline.stage hout
  have hpublished : k.published = .disconnected :: f.published := congrArg Outline.published hout
  have hsaid : f.published = said := h.published
  constructor
  case status => exact congrArg Outline.status hout
  case slot => exact (congrArg Outline.slot hout).trans h.slot
  case installed => exact congrArg Outline.installed hout
  case published =>
    rw [← hsaid]
    exact hpublished
  case stage => exact stage_setDisconnect_self .finished hlen
  case alone =>
    intro m e t
    show (k.setDisconnect n .finished).stage m ≠ .joining e t
    by_cases hm : m = n
    · rw [hm, stage_setDisconnect_self .finished hlen]
      simp
    · rw [stage_setDisconnect .finished hm, hstage]
      exact h.alone m hm e t

/-- The feed has gone on to disconnect, and nobody has answered. -/
lemma Entered.parts (hk : Entered respond .disconnecting f g) (hf : f.WellFormed may)
    (he : g.epoch = f.epoch) :
    g.status = .disconnecting ∧ g.published = f.parting ∧
      (g.disconnects, g.now, g.settings) = (f.disconnects, f.now, f.settings) := by
  unfold parting
  rcases hk with ⟨hs, rfl⟩ | ⟨hs, ht⟩
  · rw [if_pos hs]
    exact ⟨hs, rfl, rfl⟩
  · have heng := ht.engine_eq hr hf he
    rw [if_neg hs]
    exact ⟨eq_of_engine heng Feed.status fun _ => rfl,
      eq_of_engine heng Feed.published fun k => published_engine k,
      eq_of_engine heng (fun k => (k.disconnects, k.now, k.settings)) fun _ => rfl⟩

/-- A disconnect that is not answered waits for a read loop after its first part, or it is at its
end. -/
lemma departing_beginDisconnect (ho : Orderly may respond) (hf : f.WellFormed may)
    (hn : n < f.disconnects.length) (hkept : f.dropped n = false)
    (hj : ∀ m e t, f.stage m ≠ .joining e t)
    (he : (f.beginDisconnect respond n).epoch = f.epoch + 1) :
    (f.beginDisconnect respond n).outline.Departing n (f.after f.settings.shutdownTimeout)
        f.parting ∨
      (f.beginDisconnect respond n).outline.Departed n (.disconnected :: f.parting) := by
  obtain ⟨k, hk, hcases⟩ := beginDisconnect_cases respond n f
  obtain ⟨hkw, hl⟩ := hk.upkeep ho hf
  -- What the feed has come to when subscribers have been told, if no epoch has ended.
  have hmid : k.epoch = f.epoch →
      { k.abortPending with slot := none, epoch := k.epoch + 1 }.outline.Leaving n f.parting ∧
        k.disconnects = f.disconnects ∧
        k.after k.settings.shutdownTimeout = f.after f.settings.shutdownTimeout := by
    intro hke
    obtain ⟨hs, hp, hsame⟩ := hk.parts hr hf hke
    obtain ⟨hd, hnow, hset⟩ : k.disconnects = f.disconnects ∧ k.now = f.now ∧
        k.settings = f.settings := by simpa using hsame
    refine ⟨?_, hd, by unfold after; rw [hnow, hset]⟩
    have hstage : k.stage = f.stage := by
      unfold stage
      rw [hd]
    rw [← hstage] at hj
    rw [abortPending_eq]
    exact ⟨hs, rfl, hp, fun m _ => hj m⟩
  rcases hcases with ⟨hs, hend⟩ | ⟨e, -, hend⟩
  · have hpass := hkw.abortPending_passEpoch hs
    obtain ⟨i, hi, -, hli⟩ := endDisconnect_eq ho n hpass
    have hle : k.epoch + 1 ≤ f.epoch + 1 := by
      rw [← he, hend, hi]
      exact hli.epoch
    have hke : k.epoch = f.epoch := Nat.le_antisymm (Nat.le_of_succ_le_succ hle) hl.epoch
    obtain ⟨hleaving, hd, -⟩ := hmid hke
    right
    rw [hend] at he ⊢
    refine departed_endDisconnect hr hpass ?_ hleaving (he.trans (by rw [hke]))
    rw [abortPending_eq]
    exact hd ▸ hn
  · have hke : k.epoch = f.epoch := by
      rw [hend] at he
      exact Nat.succ_injective he
    obtain ⟨hleaving, hd, hafter⟩ := hmid hke
    have hdropped : k.dropped = f.dropped := by
      unfold dropped
      rw [hd]
    left
    rw [hend, hafter]
    rw [abortPending_eq] at hleaving ⊢
    exact departing_setDisconnect hleaving (hd ▸ hn) ((congrFun hdropped n).trans hkept) e _

/-! ### Steps -/

/-- What goes on in the background of a feed that holds no generation is nothing that disconnects
depend on, unless one of them is at its end. -/
lemma Background.steady (hb : Background respond f event g) (hf : f.WellFormed may)
    (hslot : f.slot = none) (he : event.Publishes → g.epoch = f.epoch) :
    f.outline.Steady event g.outline ∨
      ∃ m e t wake, event = .run (.disconnect m) wake ∧ f.stage m = .joining e t := by
  have published : ∀ e, (publishEvent respond e f).2.epoch = f.epoch →
      f.outline.Steady event (publishEvent respond e f).2.outline := by
    intro e hsame
    have hn : (f.note (.eventPublished e)).WellFormed may := hf.note _
    have heng := ((framed_passes may).publishEvent hr hn).2.resolve_left fun hlt =>
      absurd hsame.symm (Nat.ne_of_lt hlt)
    have hout : (publishEvent respond e f).2.outline = f.outline :=
      (outline_of_engine heng).trans rfl
    rw [hout]
    exact .refl _ _
  cases hb with
  | idle => exact .inl (.refl _ _)
  | said e => exact .inl (published e (he trivial))
  | relayed e => exact .inl (published e (he trivial))
  | refused => exact .inl ⟨rfl, rfl, .inr rfl, rfl, rfl, fun _ _ => rfl⟩
  | dropped n =>
    rw [haltTasks_eq]
    exact .inl ⟨rfl, hslot.symm, .inr rfl, rfl, rfl, fun _ _ => rfl⟩
  | ended hn => exact .inr ⟨_, _, _, _, rfl, hn⟩
  | givenUp n =>
    refine .inl ⟨rfl, rfl, .inl rfl, rfl, stage_giveUp n, fun m hm => dropped_giveUp ?_⟩
    rintro rfl
    exact hm rfl

end Steps

section Runs

variable {depth : Nat}

/-- In a halted feed of which the caller asks nothing, a step does what goes on in the background.
-/
lemma background_of_step? (hf : f.WellFormed may) (hp : f.Placed False)
    (hs : f.step? depth event = some f') (hh : f.status.isHalted = true) (hu : f.Uncalled event) :
    ∃ k k', k.WellFormed may ∧ k.outline = f.outline ∧
      Background (Feed.respond depth) k event k' ∧ f'.outline = k'.outline := by
  obtain ⟨k, k', hk, hkf, hop, hacts, he⟩ := performs_of_step? hf hp hs
  have hstatus : k.status = f.status := congrArg Outline.status hkf
  have hku : k.Uncalled event := ⟨hop.trans hu.operation, hu.given, hu.held⟩
  exact ⟨k, k', hk, hkf, hacts.background (hstatus ▸ hh) hku, he⟩

/-- In a halted feed that holds no generation a step does nothing that disconnects depend on, unless
one of them is at its end, if the caller asks for nothing and nobody answers an event. -/
lemma steady_of_step? (hf : f.WellFormed may) (hp : f.Placed False)
    (hs : f.step? depth event = some f') (hh : f.status.isHalted = true) (hslot : f.slot = none)
    (hu : f.Uncalled event) (ha : event.Publishes → f.Unanswered depth event) :
    f.outline.Steady event f'.outline ∨
      ∃ m e t wake, event = .run (.disconnect m) wake ∧ f.stage m = .joining e t := by
  obtain ⟨k, k', hk, hkf, hback, he⟩ := background_of_step? hf hp hs hh hu
  have hkslot : k.slot = f.slot := congrArg Outline.slot hkf
  have hepoch : k.epoch = f.epoch := congrArg Outline.epoch hkf
  have hepoch' : f'.epoch = k'.epoch := congrArg Outline.epoch he
  have hstage : k.stage = f.stage := congrArg Outline.stage hkf
  have hsteady := hback.steady ((conducted_passes may).respond depth).and.2 hk
    (hkslot.trans hslot) fun hpub => by
      rw [← hepoch', ha hpub f' hs, hpub.ends, hepoch, Nat.add_zero]
  rwa [hkf, hstage, ← he] at hsteady

/-- A disconnect is at its end, and it is not the turn of a read loop. -/
structure Parted (n : Nat) (said : List ConnectionState) (f : Feed) : Prop where
  departed : f.outline.Departed n said
  turn : ∀ e, f.current ≠ some (.loop e)

/-- When a disconnect has had its turn it is not the turn of a read loop. -/
lemma parted_of_turn {wake : Wake} (hf : f.WellFormed may)
    (hs : f.step? depth (.run (.disconnect n) wake) = some f') (h : f'.outline.Departed n said) :
    f'.Parted n said := by
  refine ⟨h, fun e => ?_⟩
  rw [(stepped_of_step? hf hs).current_eq (orderly_respond may depth) hf]
  simp [Event.task?]

/-- A disconnect that begins, and that nobody answers, waits for a read loop, or it is at its end.
-/
lemma departing_of_begin (hf : f.WellFormed may) (hj : ∀ e, ¬ f.Joined e)
    (hkept : f.dropped n = false) (hs : f.step? depth (.run (.disconnect n) .first) = some f')
    (ha : f.Unanswered depth (.run (.disconnect n) .first)) :
    f'.outline.Departing n (f.after f.settings.shutdownTimeout) f.parting ∨
      f'.Parted n (.disconnected :: f.parting) := by
  have hr := ((conducted_passes may).respond depth).and
  have hepoch := ha f' hs
  have hstages : ∀ m e t, f.stage m ≠ .joining e t := by
    intro m e t hm
    obtain ⟨d, hd, hp⟩ := exists_of_stage (by rw [hm]; simp)
    exact hj e ⟨m, d, t, hd, hp.trans hm⟩
  refine Or.imp_right (parted_of_turn hf hs) ?_
  cases stepped_of_step? hf hs with
  | disconnectBegan hd =>
    exact departing_beginDisconnect hr.2 hr.1 (hf.turn (.disconnect n) (by simp))
      (List.getElem?_eq_some_iff.1 hd).1 hkept hstages hepoch

/-- A disconnect that waits and has its turn is at its end then. -/
lemma parted_of_step? {wake : Wake} (hf : f.WellFormed may)
    (h : f.outline.Departing n t said) (hs : f.step? depth (.run (.disconnect n) wake) = some f')
    (ha : f.Unanswered depth (.run (.disconnect n) wake)) :
    f'.Parted n (.disconnected :: said) := by
  have hr := ((conducted_passes may).respond depth).and.2
  have hepoch := ha f' hs
  have hjoin : ∃ e, f.stage n = .joining e t := h.stage
  have hlt : ∀ {d : Disconnect}, f.disconnects[n]? = some d → n < f.disconnects.length :=
    fun hd => (List.getElem?_eq_some_iff.1 hd).1
  refine parted_of_turn hf hs ?_
  cases stepped_of_step? hf hs with
  | disconnectBegan hd hp =>
    obtain ⟨e, he⟩ := hjoin
    rw [stage_eq hd, hp] at he
    exact absurd he (by simp)
  | disconnectJoined hd =>
    exact departed_endDisconnect hr (hf.turn (.disconnect n) (by simp)) (hlt hd) h.toLeaving hepoch
  | disconnectAbandoned hd hp =>
    have hturn := (hf.turn (.disconnect n) (by simp)).abandonLoop hd hp
    exact departed_endDisconnect hr hturn (hlt hd) h.toLeaving hepoch

/-- A disconnect that nobody disturbs goes on waiting, or it is at its end. -/
lemma departing_of_step? (hf : f.WellFormed may) (hp : f.Placed False)
    (h : f.outline.Departing n t said) (hu : f.Undisturbed depth n event)
    (hs : f.step? depth event = some f') :
    f'.outline.Departing n t said ∨ f'.Parted n (.disconnected :: said) := by
  have hstatus : f.status = .disconnecting := h.status
  rcases steady_of_step? hf hp hs (by rw [hstatus]; rfl) h.slot hu.toUncalled
    (fun _ => hu.unanswered) with hsteady | ⟨m, e, t', wake, rfl, hm⟩
  · exact .inl (h.steady hsteady hu.kept)
  · obtain rfl : m = n := Classical.not_not.1 fun hne => h.alone m hne e t' hm
    exact .inr (parted_of_step? hf h hs hu.unanswered)

/-- When a disconnect is at its end no read loop has another turn, and connections are left alone.
-/
lemma Parted.calm (h : f.Parted n said) (hf : f.WellFormed may)
    (hs : f.step? depth event = some f') :
    f'.traffic = f.traffic ∧ (∀ e wake, event ≠ .run (.loop e) wake) ∧
      ∀ e, f'.current ≠ some (.loop e) := by
  rcases serves_of_step? hf hs with ⟨k, hk, wake, -, -, rfl, -⟩ | ⟨hno, hcalm⟩
  · have hslot : f.slot ≠ some k.epoch := by
      have hnone : f.slot = none := h.departed.slot
      simp [hnone]
    have hjoin : ¬ f.Joined k.epoch := by
      rintro ⟨m, d, t, hd, hp⟩
      exact h.departed.alone m k.epoch t ((stage_eq hd).trans hp)
    have hret := hf.retired hk (hf.released k hk hslot).epoch (h.turn k.epoch) hjoin
    rw [hret.step?_eq_none hf depth wake] at hs
    exact absurd hs (by simp)
  · refine ⟨hcalm.traffic, hno, fun e => ?_⟩
    rw [(stepped_of_step? hf hs).current_eq (orderly_respond may depth) hf]
    intro ht
    cases event with
    | run task wake =>
      obtain rfl : task = .loop e := Option.some.inj ht
      exact hno e wake rfl
    | _ => exact absurd ht (by simp [Event.task?])

/-- A disconnect that is at its end stays there as long as nobody asks for anything. -/
lemma Parted.step (h : f.Parted n said) (hf : f.WellFormed may) (hp : f.Placed False)
    (hu : f.Unasked depth event) (hs : f.step? depth event = some f') :
    f'.Parted n said ∧ f'.traffic = f.traffic := by
  have hstatus : f.status = .disconnected := h.departed.status
  obtain ⟨htraffic, hno, hturn⟩ := h.calm hf hs
  have hun : event.Publishes → f.Unanswered depth event := by
    intro hpub
    unfold Event.Publishes at hpub
    split at hpub
    · exact hu.unanswered _ rfl
    · exact absurd rfl (hno _ _)
    · exact hpub.elim
  rcases steady_of_step? hf hp hs (by rw [hstatus]; rfl) h.departed.slot hu.toUncalled hun with
    hsteady | ⟨m, e, t', -, -, hm⟩
  · exact ⟨⟨h.departed.steady hsteady, hturn⟩, htraffic⟩
  · exact absurd hm (h.departed.alone m e t')

/-! ### Runs -/

/-- A disconnect that nobody disturbs waits, and then it is at its end. -/
lemma Reachable.departing (hf : Reachable depth anyEvent f)
    (h : f.outline.Departing n t said ∨ f.Parted n (.disconnected :: said))
    (hr : Reaches depth (Undisturbed depth n) f g) :
    g.outline.Departing n t said ∨ g.Parted n (.disconnected :: said) := by
  refine hf.keeps_along (fun k => k.outline.Departing n t said ∨ k.Parted n (.disconnected :: said))
    hr h ?_
  intro k event k' hk hkp hu hstage hs
  rcases hstage with hd | hd
  · exact departing_of_step? hk hkp hd hu hs
  · have hun : k.Unasked depth event := ⟨hu.toUncalled, fun _ _ => hu.unanswered⟩
    exact .inr (hd.step hk hkp hun hs).1

/-- When a disconnect is at its end nothing happens to connections, and no status is published, as
long as nobody asks for anything. -/
lemma Reachable.parted (hf : Reachable depth anyEvent f) (h : f.Parted n said)
    (hr : Reaches depth (Unasked depth) f g) :
    g.Parted n said ∧ g.traffic = f.traffic := by
  refine hf.keeps_along (fun k => k.Parted n said ∧ k.traffic = f.traffic) hr ⟨h, rfl⟩ ?_
  rintro k event k' hk hkp hu ⟨hparted, htraffic⟩ hs
  obtain ⟨hgoes, hcalm⟩ := hparted.step hk hkp hu hs
  exact ⟨hgoes, hcalm.trans htraffic⟩

/-! ### A disconnect comes to its end -/

/-- A disconnect that waits is there, and nobody has aborted it. -/
lemma exists_of_departing (h : f.outline.Departing n t said) {e : Nat}
    (he : f.stage n = .joining e t) :
    ∃ d, f.disconnects[n]? = some d ∧ d.phase = .joining e t ∧ d.aborted = false := by
  have hkept : f.dropped n = false := h.kept
  obtain ⟨d, hd, hp⟩ := exists_of_stage (by rw [he]; simp)
  exact ⟨d, hd, hp.trans he, by simpa [dropped, hd] using hkept⟩

/-- A disconnect that waits can have its turn, at the latest when its time is up. -/
lemma canRun_disconnect (depth : Nat) (h : f.outline.Departing n t said) :
    CanRun depth f (.disconnect n) ∧
      (t ≤ f.now → (f.step? depth (.run (.disconnect n) .elapsed)).isSome = true) := by
  obtain ⟨e, he⟩ : ∃ e, f.stage n = .joining e t := h.stage
  obtain ⟨d, hd, hp, hab⟩ := exists_of_departing h he
  have hrun : ∀ k : Feed, k.disconnects = f.disconnects → t ≤ k.now →
      (k.step? depth (.run (.disconnect n) .elapsed)).isSome = true := by
    intro k hk hnow
    rw [← hk] at hd
    simp [step?, runTask, mayRun, isAborted, hd, hab, stepDisconnect, hp, hnow]
  obtain ⟨now, hnow, htick⟩ := exists_tick depth f t
  exact ⟨⟨by simp [isAborted, hd, hab], now, .elapsed, _, htick, hrun _ rfl hnow⟩, hrun f rfl⟩

/-- A disconnect that waits can have its turn when its read loop is at its end. -/
lemma isSome_joined (hf : f.WellFormed may) (depth : Nat) (h : f.outline.Departing n t said)
    {k : Generation} (hk : k ∈ f.generations) (hn : f.stage n = .joining k.epoch t)
    (hl : k.loop = .finished) : (f.step? depth (.run (.disconnect n) .joined)).isSome = true := by
  obtain ⟨d, hd, hp, hab⟩ := exists_of_departing h hn
  have hgen : { f with current := some (.disconnect n) }.generation? k.epoch = some k :=
    hf.generation?_eq_some_iff.2 ⟨hk, rfl⟩
  simp [step?, runTask, mayRun, isAborted, hd, hab, stepDisconnect, hp, loopEnded, hgen, hl]

end Runs

/-! ### Subscribers that ask for nothing -/

section Ends

variable {depth : Nat}

/-- Work of read loops ends no epoch. -/
lemma Busy.ends (hb : f.Busy g) : Ends 0 f g := by
  obtain ⟨_, _, _, _, _, rfl⟩ := hb.rest
  exact .of_eq rfl rfl

/-- In a halted feed no loss is reported. -/
lemma ends_connectionLost (hh : f.status.isHalted = true) (epoch : Nat) (retries : UInt32) :
    Ends 0 f (f.connectionLost (Feed.respond depth) epoch retries) := by
  rcases connectionLost_cases (Feed.respond depth) epoch retries f with
    ⟨-, he⟩ | ⟨-, hlive, -⟩
  · rw [he]
    exact .of_eq rfl rfl
  · exact absurd hlive (by simp [isLive, hh])

/-- In a halted feed a read loop ends no epoch, if nobody asks for an operation. -/
lemma LoopRun.ends {k : Generation} (hrun : LoopRun (Feed.respond depth) k f f')
    (hh : f.status.isHalted = true) : Ends 0 f f' := by
  have hhalted : ∀ {j : Feed}, f.Busy j → j.status.isHalted = true := by
    intro j hb
    obtain ⟨_, _, _, _, _, rfl⟩ := hb.rest
    exact hh
  cases hrun with
  | began => exact .of_eq rfl rfl
  | ended => exact .of_eq rfl rfl
  | worked _ _ hb => exact hb.ends
  | opened _ socket =>
    obtain ⟨j, hb, -, hj⟩ := loopConnected_cases (Feed.respond depth) k.epoch socket f
    rcases hj with ⟨-, he⟩ | ⟨-, -, he⟩ | ⟨-, -, hno, -⟩
    · rw [he]
      exact hb.ends.congr rfl rfl
    · rw [he]
      exact hb.ends.congr rfl rfl
    · exact absurd ((hhalted hb).symm.trans hno) (by simp)
  | failed _ _ error =>
    obtain ⟨j, hb, -, he⟩ := failLoop_eq (Feed.respond depth) k.epoch error f
    rw [he]
    exact hb.ends.trans (ends_connectionLost (hhalted hb) _ _)
  | published _ hb _ event => exact (hb.ends.trans (ends_publishEvent event _)).congr rfl rfl

/-- Neither does a guardian. -/
lemma WatchRun.ends {e : Nat} (hrun : WatchRun (Feed.respond depth) e f f')
    (hh : f.status.isHalted = true) : Ends 0 f f' := by
  cases hrun with
  | ended => exact .of_eq rfl rfl
  | slept => exact .of_eq rfl rfl
  | reported =>
    have hset : Ends 0 f (f.setWatch e .finished) := .of_eq rfl rfl
    have hhalted : (f.setWatch e .finished).status.isHalted = true := hh
    exact hset.trans (ends_connectionLost hhalted e 0)

/-- Neither does a caller who asks for nothing. -/
lemma ends_doCall {call : Call} (hu : f.Uncalled (.call call)) :
    Ends 0 f (f.doCall (Feed.respond depth) call) := by
  cases call with
  | start retries => exact absurd hu.operation (by simp [operation?])
  | stop => exact absurd hu.operation (by simp [operation?])
  | reconnect delay retries => exact .of_eq rfl rfl
  | disconnect => exact .of_eq rfl rfl
  | subscribe target name handler =>
    exact ⟨outward_remembers.subscribe f target name handler, fun _ => by cases target <;> rfl⟩
  | unsubscribe handle =>
    exact .of_eq (subscribers_unsubscribe f handle)
      (eq_of_engine (engine_unsubscribe f handle) Feed.epoch fun _ => rfl)
  | publishStatus status => exact ends_publishStatus status f
  | publishEvent event => exact ends_publishEvent event f
  | release => exact absurd rfl hu.held

/-- If no subscriber asks for an operation, a step ends the epochs that its event ends by itself: a
disconnect that begins does so in any feed, and everything else in a halted feed of which the caller
asks nothing. -/
lemma ends_of_step? (hf : f.WellFormed may) (hs : f.step? depth event = some f')
    (he : (∃ n, event = .run (.disconnect n) .first) ∨
      (f.status.isHalted = true ∧ f.Uncalled event)) : Ends event.ends f f' := by
  have hturn : ∀ task : Option Task, Ends 0 f { f with current := task } :=
    fun _ => .of_eq rfl rfl
  rcases he with ⟨n, rfl⟩ | ⟨hh, hu⟩
  · cases stepped_of_step? hf hs with
    | disconnectBegan => exact (hturn _).trans (ends_beginDisconnect n _)
  cases stepped_of_step? hf hs with
  | called call =>
    exact (hturn none).trans (ends_doCall ⟨by cases call <;> exact hu.operation, hu.given, hu.held⟩)
  | looped _ _ hrun => exact (hturn _).trans (hrun.ends hh)
  | watched _ _ hrun => exact (hturn _).trans (hrun.ends hh)
  | @reconnectBegan n r hn =>
    have hop := hu.operation
    have hsch : r.scheduled = true := by simpa [operation?, hn] using hop
    rcases beginReconnect_cases (Feed.respond depth) n r
      { f with current := some (.reconnect n) } with ⟨-, -, hdrop⟩ | ⟨hno, -⟩
    · rw [hdrop, haltTasks_eq]
      exact .of_eq rfl rfl
    · exact absurd (hh.symm.trans (hno hsch)) (by simp)
  | @reconnectEnded n r deadline epoch =>
    rcases endReconnect_cases (Feed.respond depth) n epoch r
      { f with current := some (.reconnect n) } with ⟨-, he⟩ | ⟨-, hrec, -⟩
    · rw [he]
      exact .of_eq rfl rfl
    · have hstatus : f.status = .reconnecting := hrec
      exact absurd hh (by simp [hstatus, ConnectionState.isHalted])
  | disconnectBegan => exact absurd hu.operation (by simp [operation?])
  | disconnectJoined => exact (hturn _).trans (ends_endDisconnect _ _)
  | @disconnectAbandoned n _ epoch =>
    have habandon : Ends 0 f ({ f with current := some (.disconnect n) }.abandonLoop epoch) :=
      .of_eq rfl rfl
    exact habandon.trans (ends_endDisconnect n _)
  | refreshed hb => exact (hturn _).trans hb.ends
  | ticked => exact .of_eq rfl rfl
  | reconnectGivenUp => exact .of_eq rfl rfl
  | disconnectGivenUp => exact .of_eq rfl rfl

/-- A step in which no subscriber asks for an operation is unanswered, if a disconnect begins with
it or if it happens in a halted feed of which the caller asks nothing. -/
theorem unanswered_of_refrains (hf : f.WellFormed may)
    (he : (∃ n, event = .run (.disconnect n) .first) ∨
      (f.status.isHalted = true ∧ f.Uncalled event))
    (hr : ∀ f', f.step? depth event = some f' → f.Refrains f') : f.Unanswered depth event :=
  fun f' hs => (ends_of_step? hf hs he).2 (hr f' hs)

/-- Subscribers that never ask for an operation have not asked for one. -/
lemma refrains_of_keeps (hk : g.Keeps .silent) : f.Refrains g := by
  have hsilent : ∀ {notice : Notice} {c : Command}, c.Keeps .silent notice →
      c.operates = false := by
    intro notice c hc
    induction hc with
    | once _ ih => exact ih
    | subscribe => rfl
    | unsubscribe => rfl
    | panic => rfl
    | _ h => exact absurd h id
  intro m s hs notice earlier _ _ c hc
  exact hsilent (hk s (List.mem_of_getElem? hs) notice earlier c hc)

/-- Where no subscriber ever asks for an operation, a disconnect that begins is not answered, and
neither is anything in a halted feed. -/
lemma unanswered_of_silent (hf : f.WellFormed .silent)
    (he : (∃ n, event = .run (.disconnect n) .first) ∨
      (f.status.isHalted = true ∧ f.Uncalled event)) : f.Unanswered depth event := by
  by_cases hk : event.Keeps .silent
  · exact unanswered_of_refrains hf he fun f' hs =>
      refrains_of_keeps (wellFormed_step hf hk hs).keeps
  · -- Whoever comes now may be somebody else, but is not told anything yet.
    unfold Event.Keeps at hk
    split at hk
    · next target name handler =>
      intro f' hs
      obtain rfl := Option.some.inj hs
      cases target <;> rfl
    · exact absurd trivial hk

end Ends

/-- What becomes of a disconnect that nobody disturbs, in a feed in which no other one waits. It
says that the feed is disconnecting and waits for the read loop that was held, or it is at its end
at once; and until its end nothing else is published about the status. It can have its turn when the
read loop is at its end, and at the latest when the time for that is up, whatever the read loop does
in between; and then it is at its end. The last that has been published by then is that the feed is
disconnected, which is its status, and it holds neither a generation nor a session. From there on no
status is published, no connection is begun and nothing happens to any, until somebody asks for
something. Subscribers that never ask for an operation disturb nothing.

In any run at all, as often as a socket has been opened it is closed at most once, or else read from
by one read loop at most; and the read loop that begins to close one is past reading from then on:
it takes in no frame and begins to close none. -/
theorem disconnect_completes {depth : Nat} :
    (∀ {f f' g : Feed} {n : Nat}, Reachable depth anyEvent f → (∀ e, ¬ f.Joined e) →
      f.dropped n = false → f.step? depth (.run (.disconnect n) .first) = some f' →
      f.Unanswered depth (.run (.disconnect n) .first) →
      Reaches depth (Undisturbed depth n) f' g →
      g.outline.Departing n (f.after f.settings.shutdownTimeout) f.parting ∨
        g.Parted n (.disconnected :: f.parting)) ∧
    (∀ {f : Feed} {n : Nat} {t : Duration} {said : List ConnectionState},
      Reachable depth anyEvent f → f.outline.Departing n t said →
      CanRun depth f (.disconnect n) ∧
      (t ≤ f.now → (f.step? depth (.run (.disconnect n) .elapsed)).isSome = true) ∧
      (∀ k ∈ f.generations, f.stage n = .joining k.epoch t → k.loop = .finished →
        (f.step? depth (.run (.disconnect n) .joined)).isSome = true) ∧
      ∀ {f' : Feed} {wake : Wake}, f.step? depth (.run (.disconnect n) wake) = some f' →
        f.Unanswered depth (.run (.disconnect n) wake) → f'.Parted n (.disconnected :: said)) ∧
    (∀ {f g : Feed} {n : Nat} {said : List ConnectionState}, Reachable depth anyEvent f →
      f.Parted n said → Reaches depth (Unasked depth) f g →
      g.Parted n said ∧ g.connects = f.connects ∧ g.traffic = f.traffic) ∧
    (∀ {f : Feed} {event : Event}, Reachable depth (fun _ event => event.Keeps .silent) f →
      (∃ n, event = .run (.disconnect n) .first) ∨
        (f.status.isHalted = true ∧ f.Uncalled event) → f.Unanswered depth event) ∧
    (∀ {f : Feed}, Reachable depth anyEvent f →
      ∀ socket, f.closes socket + f.readers socket ≤ f.opens socket) ∧
    ∀ {f f' : Feed} {event : Event} {socket : Nat}, Reachable depth anyEvent f →
      f.step? depth event = some f' → f'.closes socket ≠ f.closes socket →
      ∃ e wake, event = .run (.loop e) wake ∧ ∀ {g : Feed}, Reaches depth anyEvent f' g →
        g.PastReading e ∧
        (∀ frame, g.step? depth (.run (.loop e) (.frame frame)) = none) ∧
        ∀ {g' : Feed} {wake : Wake}, g.step? depth (.run (.loop e) wake) = some g' →
          ∀ s, g'.closes s = g.closes s := by
  have hfree : ∀ {k : Feed}, Reachable depth anyEvent k → k.WellFormed .free :=
    fun hr => hr.wellFormed fun _ event _ => event.keeps_free
  refine ⟨fun {f f' g n} hr hj hkept hs ha hg => ?_, fun {f n t said} hr h => ?_,
    fun {f g n said} hr h hg => ?_, fun {f event} hr he => ?_, fun {f} hr => hr.balanced.2,
    fun {f f' event socket} hr hs hc => ?_⟩
  · exact (hr.step trivial hs).departing (departing_of_begin (hfree hr) hj hkept hs ha) hg
  · obtain ⟨hcan, helapsed⟩ := canRun_disconnect depth h
    exact ⟨hcan, helapsed, fun k hk hn hl => isSome_joined (hfree hr) depth h hk hn hl,
      fun hs ha => parted_of_step? (hfree hr) h hs ha⟩
  · obtain ⟨hparted, htraffic⟩ := hr.parted h hg
    exact ⟨hparted, by rw [connects_eq, connects_eq, htraffic], htraffic⟩
  · have hf : f.WellFormed .silent := hr.wellFormed fun _ _ hk => hk
    exact unanswered_of_silent hf he
  · obtain ⟨e, wake, rfl, hpast⟩ := pastReading_of_closes (hfree hr) hs hc
    refine ⟨e, wake, rfl, fun {g} hg => ?_⟩
    have hgr : Reachable depth anyEvent g := (hr.step trivial hs).reaches hg
    have hgpast := hpast.reaches (hfree (hr.step trivial hs)) hg
    exact ⟨hgpast, hgpast.step?_frame (hfree hgr) depth, fun hs s => hgpast.closes (hfree hgr) hs s⟩

/-- A feed that is connected and that the caller disconnects. A frame has arrived together with the
request to shut down and is taken in first. The closing of the socket then never comes to its end,
and the disconnect goes on when the time for that is up. Later on the clock goes on. -/
theorem disconnect_completes_instances :
    ∃ f f₁ f₂ f₃ f₄ f₅ f₆ : Feed, f.status = .connected ∧
      f.step? 1 (.run (.disconnect 0) .first) = some f₁ ∧
      f₁.step? 1 (.run (.loop 1) (.frame .ping)) = some f₂ ∧
      f₂.step? 1 (.run (.loop 1) .shutdown) = some f₃ ∧ f₃.closes 0 ≠ f₂.closes 0 ∧
      f₃.PastReading 1 ∧ f₃.closes 0 + f₃.readers 0 ≤ f₃.opens 0 ∧
      f₃.step? 1 (.tick (.ofSeconds 60)) = some f₄ ∧ CanRun 1 f₄ (.disconnect 0) ∧
      f₄.step? 1 (.run (.disconnect 0) .elapsed) = some f₅ ∧
      f₅.Parted 0 (.disconnected :: .disconnecting :: f.published) ∧
      (∃ now, f₅.step? 1 (.tick now) = some f₆) ∧
      f₆.Parted 0 (.disconnected :: .disconnecting :: f.published) ∧
      f₆.connects = f₅.connects := by
  obtain ⟨hruns, hends, hrests, hsilent, hbalanced, hcloses⟩ := @disconnect_completes 1
  let events : List Event :=
    [.call (.start 0), .run (.loop 1) .first, .run (.loop 1) (.connected 0), .call .disconnect]
  obtain ⟨f, hf, f₁, h₁, f₂, h₂, f₃, h₃, hst, hd, hc, hstage, hnow, hafter⟩ :
      ∃ f ∈ played? 1 events, ∃ f₁ ∈ f.step? 1 (.run (.disconnect 0) .first),
        ∃ f₂ ∈ f₁.step? 1 (.run (.loop 1) (.frame .ping)),
        ∃ f₃ ∈ f₂.step? 1 (.run (.loop 1) .shutdown),
          f.status = .connected ∧ f.disconnects = [{}] ∧ f₃.closes 0 ≠ f₂.closes 0 ∧
          f₃.stage 0 ≠ .finished ∧ f₃.now = .zero ∧
          f.after f.settings.shutdownTimeout ≤ .ofSeconds 60 := by
    decide +kernel
  have hr : Reachable 1 anyEvent f := .of_played? hf fun _ _ _ => trivial
  have hr' : Reachable 1 (fun _ event => event.Keeps .silent) f :=
    .of_played? hf (by simp [events, Event.Keeps])
  have hj : ∀ e, ¬ f.Joined e := by
    rintro e ⟨m, d, t, hm, hp⟩
    rw [hd] at hm
    obtain rfl := List.mem_singleton.1 (List.mem_of_getElem? hm)
    exact absurd hp (by simp)
  have hdropped : f.dropped 0 = false := by simp [dropped, hd]
  have hparting : f.parting = .disconnecting :: f.published := by simp [parting, hst]
  have hafter₁ : ∀ {g : Feed}, Reaches 1 (Undisturbed 1 0) f₁ g →
      g.outline.Departing 0 (f.after f.settings.shutdownTimeout) f.parting ∨
        g.Parted 0 (.disconnected :: f.parting) :=
    fun hg => hruns hr hj hdropped h₁ (hsilent hr' (.inl ⟨0, rfl⟩)) hg
  have hhalted : ∀ {g : Feed}, Reaches 1 (Undisturbed 1 0) f₁ g → g.status.isHalted = true := by
    intro g hg
    rcases hafter₁ hg with h | h
    · rw [show g.status = .disconnecting from h.status]
      rfl
    · rw [show g.status = .disconnected from h.departed.status]
      rfl
  have go : ∀ {g h : Feed} {event : Event}, Reaches 1 (Undisturbed 1 0) f₁ g →
      Reachable 1 (fun _ event => event.Keeps .silent) g → g.Uncalled event →
      event ≠ .giveUp (.disconnect 0) → g.step? 1 event = some h →
      Reaches 1 (Undisturbed 1 0) f₁ h :=
    fun hg hgr hu hk hs => hg.step ⟨hu, hsilent hgr (.inr ⟨hhalted hg, hu⟩), hk⟩ hs
  have h₄ : f₃.step? 1 (.tick (.ofSeconds 60)) =
      some { f₃ with now := .ofSeconds 60, current := none } := by
    simp only [step?, hnow]
    rfl
  -- Each state is reached, and it is reached undisturbed.
  have q₂ : Reachable 1 anyEvent f₂ := (hr.step trivial h₁).step trivial h₂
  have q₄ := (q₂.step trivial h₃).step trivial h₄
  have r₁ := hr'.step (by simp [Event.Keeps]) h₁
  have r₂ := r₁.step (by simp [Event.Keeps]) h₂
  have r₃ := r₂.step (by simp [Event.Keeps]) h₃
  have r₄ := r₃.step (by simp [Event.Keeps]) h₄
  have g₂ := go .refl r₁ ⟨rfl, rfl, by simp⟩ (by simp) h₂
  have g₃ := go g₂ r₂ ⟨rfl, rfl, by simp⟩ (by simp) h₃
  have g₄ := go g₃ r₃ ⟨rfl, rfl, by simp⟩ (by simp) h₄
  have hdeparting := (hafter₁ g₄).resolve_right fun h => hstage h.departed.stage
  obtain ⟨hcan, helapsed, -, hturn⟩ := hends q₄ hdeparting
  obtain ⟨f₅, h₅⟩ := Option.isSome_iff_exists.1 (helapsed hafter)
  have hparted := hturn h₅ (hsilent r₄ (.inr ⟨hhalted g₄, rfl, rfl, by simp⟩))
  obtain ⟨now, -, h₆⟩ := exists_tick 1 f₅ .zero
  have hlast := hrests (q₄.step trivial h₅) hparted
    (.step .refl ⟨⟨rfl, rfl, by simp⟩, by simp⟩ h₆)
  obtain ⟨e, wake, he, hpast⟩ := hcloses q₂ h₃ hc
  obtain ⟨rfl, -⟩ : 1 = e ∧ _ = wake := by simpa using he
  rw [hparting] at hparted hlast
  exact ⟨f, f₁, f₂, f₃, _, f₅, _, hst, h₁, h₂, h₃, hc, (hpast .refl).1,
    hbalanced (q₂.step trivial h₃) 0, h₄, hcan, h₅, hparted, ⟨now, h₆⟩, hlast.1, hlast.2.1⟩

end Feed

end EventFeed
