import EventFeed.Proofs.Feed.Outline
import EventFeed.Proofs.Feed.Passing

/-!
# The session that a start finds

A generation begins without a session of its own, and until its read loop opens one none is
installed for it. What a feed tells of a heartbeat in the meantime is therefore told of the session
that the start has found, if it has found one. A stop, a reconnect and the end of a disconnect have
put the session away; a start that comes after them finds none. Two statuses are published while the
session of the connection before is still installed: the feed has lost its connection, or it is
disconnecting. A start from there takes that session along, and the new guardian sleeps for the
interval that the earlier connection had asked for.

`Accounted` says where a session may be installed at all. It does not hold in the midst of a stop,
which puts the session away last, but it holds again when the stop is over.
-/

namespace EventFeed

/-- The feed parts from a connection, whose session is still installed. -/
def ConnectionState.isParting : ConnectionState → Bool
  | lostConnection | disconnecting => true
  | _ => false

namespace Feed

variable {may : Conduct} {respond : Respond} {f f' g : Feed}

/-! ### Where a session is installed -/

/-- A session is installed only in a feed that is connected, that parts from its connection, or that
has been started from there. -/
def Accounted (f : Feed) : Prop :=
  f.installed ≠ none → f.status = .connected ∨ f.status.isParting = true ∨
    (f.status = .initializing ∧
      ∃ s rest, f.changes = .initializing :: s :: rest ∧ s.isParting = true)

/-- Statuses are on their path, and a session is accounted for. -/
structure Tidy (f : Feed) : Prop extends f.Lawful where
  accounted : f.Accounted

/-- Where no session is installed there is nothing to account for. -/
lemma Accounted.of_none (h : f.installed = none) : f.Accounted :=
  fun hi => absurd h hi

/-- Feeds of one outline account for the same session. -/
lemma Accounted.outline (h : f.Accounted) (he : g.outline = f.outline) : g.Accounted := by
  have hi : g.installed = f.installed := congrArg Outline.installed he
  have hs : g.status = f.status := congrArg Outline.status he
  have hc : g.changes = f.changes := congrArg Outline.changes he
  unfold Accounted
  rw [hi, hs, hc]
  exact h

/-- A feed that has been started has its status from the latest change. -/
lemma Lawful.changes_eq (h : f.Lawful) (hs : f.status ≠ .notStarted) :
    ∃ rest, f.changes = f.status :: rest := by
  have hlatest := h.latest
  unfold statuses at hlatest
  cases hc : f.changes with
  | nil =>
    rw [hc] at hlatest
    exact absurd (Option.some.inj hlatest).symm hs
  | cons s rest =>
    rw [hc] at hlatest
    obtain rfl : s = f.status := Option.some.inj hlatest
    exact ⟨rest, rfl⟩

/-- What happens to subscribers alone leaves everything accounted for. -/
lemma framed_tidy (may : Conduct) : Framed may (WellFormed may) fun _ f g => f.Tidy → g.Tidy where
  keeps h := h.keeps
  refl _ _ := id
  trans hf hg h := hg (hf h)
  aside he hk hf := ⟨hf.of_engine he hk, fun h =>
    ⟨(steers_of_engine he).lawful h.toLawful, h.accounted.outline (outline_of_engine he)⟩⟩

section Tidy

variable (ht : Respects (WellFormed may) (fun _ f g => f.Tidy → g.Tidy) respond)

include ht

/-- Answers to an announcement leave everything accounted for, if the announcement does. -/
lemma Told.tidy {s : ConnectionState} (hg : Told respond s f g) (hf : f.WellFormed may)
    (h : (f.announce s).Tidy) : g.Tidy :=
  ((framed_tidy may).told ht hg (hf.announce s)).2 h

/-- Going on to a status leaves everything accounted for, if no session is installed or the feed
parts from it. -/
lemma Entered.tidy {s : ConnectionState} (he : Entered respond s f g) (hf : f.WellFormed may)
    (h : f.Lawful) (hs : s.isPlain = true) (hd : s = .reconnecting → f.slot = none)
    (hi : f.installed = none ∨ s.isParting = true) : g.Tidy := by
  have hacc : ∀ {k : Feed}, k.status = s → k.installed = f.installed → k.Accounted := by
    intro k hks hki
    rcases hi with hi | hi
    · exact .of_none (hki.trans hi)
    · exact fun _ => .inr (.inl (hks ▸ hi))
  rcases he with ⟨hst, rfl⟩ | ⟨hne, hg⟩
  · exact ⟨h, hacc hst rfl⟩
  · have hfollows := ConnectionState.follows_of_isPlain hs hne
    exact hg.tidy ht hf ⟨h.announce hfollows hd, hacc rfl rfl⟩

/-- A start leaves everything accounted for: a session that it finds is one from which the feed
parts. -/
lemma accounted_startWhere {allowed : Feed → Bool} {retries : UInt32} (hf : f.WellFormed may)
    (h : f.Tidy) (ha : allowed f = true → f.status ≠ .connected) :
    (startWhere respond allowed retries f).2.Accounted := by
  rcases startWhere_cases respond allowed retries f with ⟨-, he⟩ | ⟨hs, hal, k, hk, hcases⟩
  · rw [he]
    exact h.accounted
  have hnc := ha hal
  have hfollows : f.status.Follows .initializing := by
    revert hs hnc
    cases f.status <;> decide
  have hsaid : (f.announce .initializing).Accounted := by
    intro hi
    rcases h.accounted hi with hst | hst | ⟨hst, -⟩
    · exact absurd hst hnc
    · obtain ⟨rest, hrest⟩ := h.toLawful.changes_eq (fun hn => by simp [hn,
        ConnectionState.isParting] at hst)
      have hchanges : (f.announce .initializing).changes = .initializing :: f.changes := rfl
      exact .inr (.inr ⟨rfl, f.status, rest, hrest ▸ hchanges, hst⟩)
    · exact absurd hst hs
  have hkt := hk.tidy ht hf ⟨h.toLawful.announce hfollows (by simp), hsaid⟩
  rcases hcases with ⟨-, he⟩ | ⟨-, he⟩
  · rw [he]
    exact hkt.accounted
  · have hsame : (k.generate retries).installed = k.installed ∧
        (k.generate retries).status = k.status ∧ (k.generate retries).journal = k.journal := by
      rw [generate, abortSlot_eq]
      exact ⟨rfl, rfl, rfl⟩
    have hchanges : (k.generate retries).changes = k.changes := by
      rw [changes, hsame.2.2, changes]
    rw [he]
    unfold Accounted
    rw [hsame.1, hsame.2.1, hchanges]
    exact hkt.accounted

/-- The first part of a reconnect leaves everything accounted for. -/
lemma accounted_beginReconnect (hf : f.WellFormed may) (h : f.Lawful) (n : Nat) (r : Reconnect) :
    (f.beginReconnect respond n r).Accounted := by
  have hslot : f.haltTasks.slot = none := by rw [haltTasks_eq]
  have hinst : f.haltTasks.installed = none := by rw [haltTasks_eq]
  have hlaw : f.haltTasks.Lawful := h.congr (by rw [haltTasks_eq]; rfl) (.inr hslot)
  rcases beginReconnect_cases respond n r f with ⟨-, -, he⟩ | ⟨-, k, hk, he⟩
  · rw [he]
    exact .of_none hinst
  · have hkt := hk.tidy ht hf.haltTasks hlaw rfl (fun _ => hslot) (.inl hinst)
    rw [he, sleepReconnect_eq]
    exact hkt.accounted.outline ((outline_of_engine (engine_log k _ _ _)).trans rfl)

/-- The last part of a disconnect leaves everything accounted for. -/
lemma accounted_endDisconnect (hf : f.WellFormed may) (h : f.Lawful) (n : Nat) :
    (f.endDisconnect respond n).Accounted := by
  obtain ⟨k, hk, he⟩ := endDisconnect_cases respond n f
  have hi : { f with installed := none }.WellFormed may := hf.uninstall
  have hlaw : { f with installed := none }.Lawful := h.congr rfl (.inl rfl)
  have hkt := hk.tidy ht hi hlaw rfl (by simp) (.inl rfl)
  rw [he]
  exact hkt.accounted

/-- The first part of a disconnect leaves everything accounted for. -/
lemma accounted_beginDisconnect (ho : Orderly may respond) (hf : f.WellFormed may) (h : f.Lawful)
    (n : Nat) : (f.beginDisconnect respond n).Accounted := by
  obtain ⟨k, hk, he⟩ := beginDisconnect_cases respond n f
  have hkt := hk.tidy ht hf h rfl (by simp) (.inr rfl)
  rcases he with ⟨hs, he⟩ | ⟨e, -, he⟩
  · have hpass := (hk.upkeep ho hf).1.abortPending_passEpoch hs
    have hlaw : { k.abortPending with slot := none, epoch := k.epoch + 1 }.Lawful :=
      hkt.toLawful.congr (by rw [abortPending_eq]; rfl) (.inr rfl)
    rw [he]
    exact accounted_endDisconnect ht hpass hlaw n
  · rw [he, abortPending_eq]
    exact hkt.accounted

end Tidy

/-- A stop puts the session away. -/
lemma installed_stop (respond : Respond) (f : Feed) : (f.stop respond).installed = none := by
  unfold stop
  rw [haltTasks_eq]

/-- On top of statuses on their path, operations leave everything accounted for. -/
theorem conducted_tidy (may : Conduct) :
    Conducted may (WellFormed may) fun _ f g =>
      (f.Later g ∧ f.Steers g) ∧ (f.Tidy → g.Tidy) := by
  refine (conducted_steers may).and (framed_tidy may) ?_ ?_ ?_ ?_
  · intro respond hr ht _ _ retries f hf h
    have hsteers : f.Steers (f.start respond retries) :=
      steers_startWhere hr.and.2 hf (by simp)
    exact ⟨hsteers.lawful h.toLawful, accounted_startWhere ht hf h (by simp)⟩
  · intro respond hr _ _ _ f hf h
    exact ⟨(leads_stop hr.and.2 hf).lawful h.toLawful, .of_none (installed_stop respond f)⟩
  · intro respond hr ht _ _ delay retries f hf h
    have hadd : (f.addReconnect delay retries).2.WellFormed may := hf.appendReconnect hf.claim rfl
    have hlaw : (f.addReconnect delay retries).2.Lawful := h.toLawful.congr rfl (.inl rfl)
    exact ⟨(leads_beginReconnect hr.and.2 _ _ hadd).lawful hlaw,
      accounted_beginReconnect ht hadd hlaw _ _⟩
  · intro respond hr ht _ _ f hf h
    have hlaw : f.addDisconnect.2.Lawful := h.toLawful.congr rfl (.inl rfl)
    exact ⟨(leads_beginDisconnect hr.and.1 hr.and.2 _ hf.addDisconnect).lawful hlaw,
      accounted_beginDisconnect ht hr.and.1 hf.addDisconnect hlaw _⟩

/-! ### Steps -/

/-- Whatever a step does, it leaves everything accounted for. -/
lemma Acts.accounted {event : Event} (ha : Acts respond f event g)
    (hr : Respects (WellFormed may)
      (fun _ f g => (f.Later g ∧ f.Steers g) ∧ (f.Tidy → g.Tidy)) respond)
    (hf : f.WellFormed may) (h : f.Tidy) : g.Accounted := by
  obtain ⟨hsteady, ht⟩ := hr.and
  have saidEvent : ∀ e, (publishEvent respond e f).2.Accounted := by
    intro e
    have hn : (f.note (.eventPublished e)).WellFormed may := hf.note _
    have hsaid : (f.note (.eventPublished e)).Tidy := ⟨h.toLawful.congr rfl (.inl rfl), h.accounted⟩
    exact (((framed_tidy may).publishEvent ht hn).2 hsaid).accounted
  cases ha with
  | idle => exact h.accounted
  | started retries => exact accounted_startWhere ht hf h (by simp)
  | stopped => exact .of_none (installed_stop respond f)
  | released => exact .of_none (by rw [release, haltTasks_eq])
  | saidStatus s =>
    have hn : (f.note (.statusPublished s)).WellFormed may := hf.note _
    have hsaid : (f.note (.statusPublished s)).Tidy :=
      ⟨h.toLawful.congr rfl (.inl rfl), h.accounted⟩
    exact (((framed_tidy may).publishStatus ht hn).2 hsaid).accounted
  | saidEvent e => exact saidEvent e
  | relayed e => exact saidEvent e
  | lost _ hs _ hg =>
    have hfollows : f.status.Follows .lostConnection := by
      rcases hs with hs | hs <;> rw [hs] <;> decide
    exact (hg.tidy ht hf
      ⟨h.toLawful.announce hfollows (by simp), fun _ => .inr (.inl rfl)⟩).accounted
  | opened hs _ hg =>
    have hi : (f.install f.epoch).WellFormed may := hf.install _
    have hlaw : (f.install f.epoch).Lawful := h.toLawful.congr rfl (.inl rfl)
    have hfollows : (f.install f.epoch).status.Follows .connected := by
      show f.status.Follows .connected
      rw [hs]
      decide
    exact (hg.tidy ht hi ⟨hlaw.announce hfollows (by simp), fun _ => .inl rfl⟩).accounted
  | refused => exact .of_none rfl
  | reconnected => exact accounted_beginReconnect ht hf h.toLawful _ _
  | restarted hs => exact accounted_startWhere ht hf h (by simp [hs])
  | disconnectBegan => exact accounted_beginDisconnect ht hsteady.and.1 hf h.toLawful _
  | disconnectEnded => exact accounted_endDisconnect ht hf h.toLawful _
  | givenUp => exact h.accounted

/-- In every feed that is reached the session that is installed is accounted for. -/
lemma Reachable.tidy {depth : Nat} {allowed : Feed → Event → Prop}
    (hr : Reachable depth allowed f) :
    f.WellFormed Conduct.free ∧ f.Placed False ∧ f.Accounted := by
  refine hr.invariant (fun f => f.Placed False ∧ f.Accounted) (fun _ event _ => event.keeps_free)
    ?_ ?_
  · intro settings refreshable f₀ h₀
    refine ⟨placed_of_ofSettings h₀, .of_none ?_⟩
    obtain ⟨request, rfl⟩ := eq_of_ofSettings h₀
    rfl
  · rintro g event h hg - ⟨hp, ha⟩ hs
    have hnext := ((stepped_of_step? hg hs).placed ((conducted_steers .free).respond depth) hp hg
      False.elim).1
    obtain ⟨k, k', hk, hkg, -, hacts, he⟩ := performs_of_step? hg hp hs
    have htidy : k.Tidy := ⟨hp.lawful.outline hkg, ha.outline hkg⟩
    have hafter := hacts.accounted ((conducted_tidy .free).respond depth) hk htidy
    exact ⟨hnext, hafter.outline he⟩

/-- No socket of the current generation opens with an event. -/
def Unopened (f : Feed) (event : Event) : Prop :=
  ∀ socket, event ≠ .run (.loop f.epoch) (.connected socket)

/-- Unless a socket of the current generation opens, the session that is installed stays, or it is
put away. -/
lemma Acts.installed {event : Event} (ha : Acts respond f event g) (hr : Orderly may respond)
    (hf : f.WellFormed may) (hu : f.Unopened event) :
    g.installed = f.installed ∨ g.installed = none := by
  cases ha with
  | idle => exact .inl rfl
  | started retries => exact ((started_start respond retries f).upkeep hr hf).2.installed
  | stopped => exact .inr (installed_stop respond f)
  | released => exact .inr (by rw [release, haltTasks_eq])
  | saidStatus s => exact (later_doCall hr hf (.publishStatus s)).installed
  | saidEvent e => exact (upkeep_publishEvent hr hf e).2.installed
  | relayed e => exact (upkeep_publishEvent hr hf e).2.installed
  | lost _ _ _ hg => exact (hg.upkeep hr hf).2.installed
  | opened => exact absurd rfl (hu _)
  | refused => exact absurd rfl (hu _)
  | @reconnected n r =>
    obtain ⟨-, k, phase, he, -, hl⟩ := upkeep_beginReconnect hr n r hf
    rw [he]
    exact hl.installed
  | @restarted n retries => exact ((started_restart respond retries f).upkeep hr hf).2.installed
  | disconnectBegan hn =>
    obtain ⟨-, k, phase, he, hl⟩ := upkeep_beginDisconnect hr _ hf hn
    rw [he]
    exact hl.installed
  | disconnectEnded => exact .inr (endDisconnect_shows hr hf _).1
  | givenUp => exact .inl rfl

/-- As long as no socket of the current generation opens, the session that is installed stays, or it
is put away. -/
lemma Reachable.installed {depth : Nat} (hf : Reachable depth anyEvent f)
    (hr : Reaches depth Unopened f g) : g.installed = f.installed ∨ g.installed = none := by
  refine hf.keeps_along (fun k => k.installed = f.installed ∨ k.installed = none) hr (.inl rfl) ?_
  intro k event k' hk hkp hu hi hs
  obtain ⟨j, j', hj, hjk, -, hacts, he⟩ := performs_of_step? hk hkp hs
  have hepoch : j.epoch = k.epoch := congrArg Outline.epoch hjk
  have hji : j.installed = k.installed := congrArg Outline.installed hjk
  have hki : k'.installed = j'.installed := congrArg Outline.installed he
  have hju : j.Unopened event := by
    unfold Unopened
    rw [hepoch]
    exact hu
  rw [hki]
  rcases hacts.installed (orderly_respond .free depth) hj hju with hsame | hnone
  · rw [hsame, hji]
    exact hi
  · exact .inr hnone

/-! ### What is told of a session -/

/-- The feed knows of no session: it tells of no heartbeat, and its interval is the one of the
settings. -/
structure Blank (f : Feed) : Prop where
  session : f.session? = none
  unheard : f.hasHeartbeat = false
  age : f.heartbeatAge? = none
  interval : f.heartbeatInterval = f.settings.heartbeatInterval

/-- Where no session is installed the feed knows of none. -/
lemma blank_of_none (h : f.installed = none) : f.Blank := by
  have hs : f.session? = none := by rw [session?, h, Option.bind_none]
  constructor
  · exact hs
  · rw [hasHeartbeat, hs, Option.any_none]
  · rw [heartbeatAge?, hs, Option.bind_none]
  · rw [heartbeatInterval, hs, Option.map_none, Option.getD_none]

/-- The first sleep of a guardian takes as long as the interval that the feed tells. -/
lemma watch_of_first {depth e : Nat} (hf : f.WellFormed may)
    (hs : f.step? depth (.run (.watch e) .first) = some f') {k : Generation}
    (hk : k ∈ f'.generations) (hke : k.epoch = e) :
    k.watch = .finished ∨ k.watch = .asleep (f.after f.heartbeatInterval) := by
  obtain ⟨i, -, rfl, -, ht⟩ := watchTurn_of_step? hf hs
  cases ht with
  | began =>
    obtain ⟨j, -, rfl⟩ := List.mem_map.1 hk
    have hje : j.epoch = i.epoch := by
      by_cases he : j.epoch = i.epoch
      · exact he
      · rwa [if_neg he] at hke
    rw [if_pos hje]
    dsimp only
    split
    · exact .inl rfl
    · exact .inr rfl

/-! ### Starts -/

/-- The caller starts the feed, or a reconnect does at the end of its delay. -/
inductive Event.Starts : Event → Prop
  | called (retries : UInt32) : Starts (.call (.start retries))
  | restarted (n : Nat) : Starts (.run (.reconnect n) .elapsed)

/-- A start that ends the epoch has not been refused. -/
lemma status_of_starts {depth : Nat} {event : Event} (hf : f.WellFormed may)
    (he : Event.Starts event) (hs : f.step? depth event = some f') (hlt : f.epoch < f'.epoch) :
    f.status ≠ .initializing ∧ f.status ≠ .connected := by
  cases he with
  | called retries =>
    obtain rfl := Option.some.inj hs
    rcases startWhere_cases (Feed.respond depth) (fun f => f.status ≠ .connected) retries
      { f with current := none } with ⟨-, h⟩ | ⟨hi, hc, -⟩
    · have hsame : ({ f with current := none }.start (Feed.respond depth) retries).epoch =
          f.epoch := by rw [start, h]
      exact absurd hsame (Nat.ne_of_gt hlt)
    · exact ⟨hi, by simpa using hc⟩
  | restarted n =>
    cases stepped_of_step? hf hs with
    | @reconnectEnded _ r deadline epoch =>
      rcases endReconnect_cases (Feed.respond depth) n epoch r
        { f with current := some (.reconnect n) } with ⟨-, h⟩ | ⟨-, hrec, -⟩
      · rw [h] at hlt
        exact absurd hlt (Nat.lt_irrefl _)
      · have hst : f.status = .reconnecting := hrec
        simp [hst]

/-- A start that goes on by one epoch is the only operation there has been. It takes the session
along that it finds. -/
lemma Started.installed {retries : UInt32} (hs : Started respond retries f g)
    (hr : Respects (WellFormed may) (fun _ => Passes) respond) (hf : f.WellFormed may)
    (he : g.epoch = f.epoch + 1) (hst : g.status = .initializing) : g.installed = f.installed := by
  cases hs with
  | refused => rfl
  | overtaken _ _ hg => exact absurd hst hg
  | @begun k _ hk _ =>
    have hke : k.epoch + 1 = f.epoch + 1 := he
    have hsame := (hk.passes hr hf).resolve_left fun hlt : f.epoch < k.epoch => by omega
    have hgen : (k.generate retries).installed = k.installed := by rw [generate, abortSlot_eq]
    exact hgen.trans (eq_of_engine hsame Feed.installed fun _ => rfl)

/-- A feed that is initializing, and was not started while it parted from a connection, knows of no
session. -/
lemma Reachable.blank_of_initializing {depth : Nat} (hf : Reachable depth anyEvent f)
    (hs : f.status = .initializing)
    (hplain : ∀ s rest, f.changes = .initializing :: s :: rest → s.isParting = false) :
    f.Blank := by
  refine blank_of_none (Classical.not_not.1 fun hi => ?_)
  rcases hf.tidy.2.2 hi with hc | hp | ⟨-, s, rest, hchanges, hp⟩
  · simp [hs] at hc
  · simp [hs, ConnectionState.isParting] at hp
  · rw [hplain s rest hchanges] at hp
    simp at hp

/-- After a start that is not refused, in a feed that does not part from a connection, no session is
installed until a socket of the current generation opens. -/
lemma Reachable.blank_of_starts {depth : Nat} {event : Event} (hf : Reachable depth anyEvent f)
    (hstart : Event.Starts event) (hplain : f.status.isParting = false)
    (hs : f.step? depth event = some f') (hlt : f.epoch < f'.epoch)
    (hg : Reaches depth Unopened f' g) : g.Blank := by
  obtain ⟨hw, -, hacc⟩ := hf.tidy
  obtain ⟨hninit, hnconn⟩ := status_of_starts hw hstart hs hlt
  have hnone : f.installed = none := Classical.not_not.1 fun hi => by
    rcases hacc hi with hc | hp | ⟨hinit, -⟩
    · exact hnconn hc
    · rw [hplain] at hp
      simp at hp
    · exact hninit hinit
  have hu : f.Unopened event := by
    rintro socket rfl
    cases hstart
  have hstep : Reaches depth Unopened f f' := .step .refl hu hs
  have hreach : Reaches depth Unopened f g := hstep.trans hg
  apply blank_of_none
  rcases hf.installed hreach with h | h
  · exact h.trans hnone
  · exact h

/-- A start that is the only operation takes along the session that it finds. The session stays
until it is put away or a socket of the current generation opens. -/
lemma Reachable.installed_of_start {depth : Nat} {retries : UInt32}
    (hf : Reachable depth anyEvent f) (hs : f.step? depth (.call (.start retries)) = some f')
    (he : f'.epoch = f.epoch + 1) (hst : f'.status = .initializing) :
    f'.installed = f.installed ∧
      (Reaches depth Unopened f' g → g.installed = f.installed ∨ g.installed = none) := by
  have hw : f.WellFormed Conduct.free := hf.tidy.1
  have hreach : Reachable depth anyEvent f' := hf.step trivial hs
  have hr := ((conducted_passes .free).respond depth).and
  have hstart := started_start (Feed.respond depth) retries { f with current := none }
  have hi : f'.installed = f.installed := by
    obtain rfl := Option.some.inj hs
    exact hstart.installed hr.2 hw.noTurn he hst
  refine ⟨hi, fun hg => ?_⟩
  rw [← hi]
  exact hreach.installed hg

/-- As long as the read loop of the current generation has opened no session, what is installed is
of an earlier one. -/
lemma Reachable.installed_lt {depth e : Nat} (hf : Reachable depth anyEvent f)
    (hi : f.installed = some e)
    (hnone : ∀ k ∈ f.generations, k.epoch = f.epoch → k.session = none) : e < f.epoch := by
  obtain ⟨hw, hp, -⟩ := hf.tidy
  obtain ⟨k, hk, rfl, ho⟩ := hp.opened e hi
  refine Nat.lt_of_le_of_ne (hw.epoch_le hk) fun he => ?_
  have hsome := ho.session
  rw [hnone k hk he] at hsome
  simp at hsome

/-- What a generation knows of a session before its read loop has opened one. While the feed is
initializing it knows of none, unless it has been started while it was parting from a connection.
After any other start it knows of none until a socket of the current generation opens, and the
guardian sleeps for the interval of the settings. A start from a status in which the feed parts from
a connection takes the session of that connection along: it is there until it is put away or a
socket opens, and it is of an earlier generation. -/
theorem start_leaves_session {depth : Nat} :
    (∀ {f : Feed}, Reachable depth anyEvent f → f.status = .initializing →
      (∀ s rest, f.changes = .initializing :: s :: rest → s.isParting = false) → f.Blank) ∧
    (∀ {f f' g : Feed} {event : Event}, Reachable depth anyEvent f → Event.Starts event →
      f.status.isParting = false → f.step? depth event = some f' → f.epoch < f'.epoch →
      Reaches depth Unopened f' g → g.Blank ∧
        ∀ {g' : Feed} {k : Generation}, g.step? depth (.run (.watch g.epoch) .first) = some g' →
          k ∈ g'.generations → k.epoch = g.epoch →
          k.watch = .finished ∨ k.watch = .asleep (g.after g.settings.heartbeatInterval)) ∧
    (∀ {f f' g : Feed} {retries : UInt32}, Reachable depth anyEvent f →
      f.step? depth (.call (.start retries)) = some f' → f'.epoch = f.epoch + 1 →
      f'.status = .initializing → f'.installed = f.installed ∧
        (Reaches depth Unopened f' g → g.installed = f.installed ∨ g.installed = none)) ∧
    ∀ {f : Feed} {e : Nat}, Reachable depth anyEvent f → f.installed = some e →
      (∀ k ∈ f.generations, k.epoch = f.epoch → k.session = none) → e < f.epoch := by
  refine ⟨Reachable.blank_of_initializing, fun {f f' g event} hf hstart hplain hs hlt hg => ?_,
    Reachable.installed_of_start, Reachable.installed_lt⟩
  have hblank := hf.blank_of_starts hstart hplain hs hlt hg
  refine ⟨hblank, fun {g' k} hfirst hk hke => ?_⟩
  have hreach : Reachable depth anyEvent f' := hf.step trivial hs
  have hgw := (hg.onward hreach.tidy.1 fun _ event _ => event.keeps_free).1
  rw [← hblank.interval]
  exact watch_of_first hgw hfirst hk hke

/-- A feed that has been started for the first time, and one that is started again after a stop:
neither knows of a session. And one that has lost its connection and is started again: the session
of the first generation is still there, although the second has none. -/
theorem start_leaves_session_instances :
    (∃ f : Feed, f.status = .initializing ∧ f.Blank) ∧
    (∃ f f' : Feed, f.status = .stopUpdates ∧ f.step? 1 (.call (.start 0)) = some f' ∧
      f.epoch < f'.epoch ∧ f'.Blank ∧
      ∀ {g' : Feed} {k : Generation}, f'.step? 1 (.run (.watch f'.epoch) .first) = some g' →
        k ∈ g'.generations → k.epoch = f'.epoch →
        k.watch = .finished ∨ k.watch = .asleep (f'.after f'.settings.heartbeatInterval)) ∧
    ∃ f f' : Feed, f.status = .lostConnection ∧ f.step? 1 (.call (.start 0)) = some f' ∧
      f'.status = .initializing ∧ f'.installed = some 1 ∧ 1 < f'.epoch ∧
      (Reaches 1 Unopened f' f' → f'.installed = some 1 ∨ f'.installed = none) := by
  obtain ⟨hfirst, hafter, halong, hearlier⟩ := @start_leaves_session 1
  let connect : List Event :=
    [.call (.start 0), .run (.loop 1) .first, .run (.loop 1) (.connected 0)]
  refine ⟨?_, ?_, ?_⟩
  · have hplay : (played? 1 [.call (.start 0)]).map (fun f => (f.status, f.changes)) =
        some (.initializing, [.initializing]) := by decide +kernel
    obtain ⟨f, hf, hview⟩ := Option.map_eq_some_iff.1 hplay
    obtain ⟨hs, hc⟩ := Prod.mk.inj hview
    refine ⟨f, hs, hfirst (.of_played? hf fun _ _ _ => trivial) hs fun s rest hrest => ?_⟩
    simp [hc] at hrest
  · have hplay : ((played? 1 (connect ++ [.call .stop])).bind fun f =>
        (f.step? 1 (.call (.start 0))).map fun f' => (f.status, f.epoch, f'.epoch)) =
        some (.stopUpdates, 2, 3) := by decide +kernel
    obtain ⟨f, hf, hplay⟩ := Option.bind_eq_some_iff.1 hplay
    obtain ⟨f', hs, hview⟩ := Option.map_eq_some_iff.1 hplay
    simp only [Prod.mk.injEq] at hview
    obtain ⟨hst, he, he'⟩ := hview
    have hplain : f.status.isParting = false := by rw [hst]; rfl
    have hlt : f.epoch < f'.epoch := by rw [he, he']; decide
    obtain ⟨hblank, hwatch⟩ :=
      hafter (.of_played? hf fun _ _ _ => trivial) (.called 0) hplain hs hlt .refl
    exact ⟨f, f', hst, hs, hlt, hblank, hwatch⟩
  · have hplay : ((played? 1 (connect ++ [.run (.loop 1) .ended])).bind fun f =>
        (f.step? 1 (.call (.start 0))).map fun f' =>
          ((f.status, f.epoch, f.installed), f'.status, f'.epoch,
            decide (∀ k ∈ f'.generations, k.epoch = f'.epoch → k.session = none))) =
        some ((.lostConnection, 1, some 1), .initializing, 2, true) := by decide +kernel
    obtain ⟨f, hf, hplay⟩ := Option.bind_eq_some_iff.1 hplay
    obtain ⟨f', hs, hview⟩ := Option.map_eq_some_iff.1 hplay
    simp only [Prod.mk.injEq, decide_eq_true_eq] at hview
    obtain ⟨⟨hst, he, hi⟩, hst', he', hnone⟩ := hview
    have hr : Reachable 1 anyEvent f := .of_played? hf fun _ _ _ => trivial
    obtain ⟨hsame, hkept⟩ := halong (g := f') hr hs (by rw [he, he']) hst'
    rw [hi] at hsame hkept
    exact ⟨f, f', hst, hs, hst', hsame, hearlier (hr.step trivial hs) hsame hnone, hkept⟩

/-- A subscriber that starts the feed when the connection is lost. The generation that is begun has
opened no session, and the feed tells of the heartbeat of the one before, and its guardian sleeps
for the interval that the one before had asked for. -/
theorem start_takes_session_along :
    ∃ f f' : Feed, Reachable 1 anyEvent f ∧ f.status = .initializing ∧ f.epoch = 2 ∧
      (∀ g ∈ f.generations, g.epoch = 2 → g.loop = .waiting ∧ g.session = none) ∧
      f.installed = some 1 ∧ f.hasHeartbeat = true ∧ f.heartbeatAge? = some .zero ∧
      f.settings.heartbeatInterval = .ofSeconds 30 ∧ f.heartbeatInterval = .ofSeconds 45 ∧
      f.step? 1 (.run (.watch 2) .first) = some f' ∧
      ∃ g ∈ f'.generations, g.epoch = 2 ∧ g.watch = .asleep (f.after (.ofSeconds 45)) := by
  let again : Handler := answering (.status .lostConnection) (.start 0)
  let events : List Event :=
    [.call (.subscribe .status "again" again), .call (.start 0), .run (.loop 1) .first,
      .run (.loop 1) (.connected 0),
      .run (.loop 1) (.frame (.text
        "<Event seqnum=\"1\" sid=\"uuid:1\"><control>_0</control><action>45</action></Event>")),
      .run (.loop 1) .ended]
  obtain ⟨f, hf, f', hs, hview⟩ : ∃ f ∈ played? 1 events,
      ∃ f' ∈ f.step? 1 (.run (.watch 2) .first), f.status = .initializing ∧ f.epoch = 2 ∧
        (∀ g ∈ f.generations, g.epoch = 2 → g.loop = .waiting ∧ g.session = none) ∧
        f.installed = some 1 ∧ f.hasHeartbeat = true ∧ f.heartbeatAge? = some .zero ∧
        f.settings.heartbeatInterval = .ofSeconds 30 ∧ f.heartbeatInterval = .ofSeconds 45 ∧
        ∃ g ∈ f'.generations, g.epoch = 2 ∧ g.watch = .asleep (f.after (.ofSeconds 45)) := by
    decide +kernel
  obtain ⟨hst, he, hnone, hi, hh, ha, hset, hint, hw⟩ := hview
  have hr : Reachable 1 anyEvent f := .of_played? hf fun _ _ _ => trivial
  exact ⟨f, f', hr, hst, he, hnone, hi, hh, ha, hset, hint, hs, hw⟩

end Feed

end EventFeed
