import EventFeed.Proofs.Feed.Disconnected

/-!
# Scheduled reconnects

A reconnect that the feed schedules after a loss runs as a task of its own, and before it first runs
an operation may end the epoch for which it was scheduled. The reconnect does not look at the epoch
then: it halts whatever runs, and unless the feed is halted it goes on to reconnecting, whichever
generation has begun in the meantime. What does look at the epoch is the end of a delay: a reconnect
that wakes up in another epoch than the one it fell asleep in does nothing, so every reconnect that
sleeps when a scheduled one begins is superseded, and the delay that counts is the scheduled one.
-/

namespace EventFeed.Feed

variable {may : Conduct} {respond : Respond} {f f' g : Feed}

/-! ### The first part of a reconnect -/

section Orderly

variable (hr : Orderly may respond)

include hr

/-- The first part of a reconnect aborts the tasks that are held and forgets the session. -/
lemma beginReconnect_halts (n : Nat) (r : Reconnect) (hf : f.WellFormed may) :
    (f.beginReconnect respond n r).installed = none ∧
      ∀ k ∈ f.generations, f.slot = some k.epoch →
        ∃ k' ∈ (f.beginReconnect respond n r).generations,
          k'.epoch = k.epoch ∧ k'.loopAborted = true ∧ k'.watchAborted = true := by
  have habort : ∀ k ∈ f.generations, f.slot = some k.epoch → k.abort ∈ f.haltTasks.generations := by
    intro k hk hs
    rw [haltTasks_eq]
    exact List.mem_map.2 ⟨k, hk, if_pos hs⟩
  have hnone : f.haltTasks.installed = none := by rw [haltTasks_eq]
  rcases beginReconnect_cases respond n r f with ⟨-, -, he⟩ | ⟨-, i, ht, he⟩
  · rw [he]
    exact ⟨hnone, fun k hk hs => ⟨_, habort k hk hs, rfl, rfl, rfl⟩⟩
  · obtain ⟨-, hl⟩ := ht.upkeep hr hf.haltTasks
    have hinst : i.installed = none := by
      rcases hl.installed with h | h
      · exact h.trans hnone
      · exact h
    rw [he]
    refine ⟨hinst, fun k hk hs => ?_⟩
    obtain ⟨k', hk', hkk'⟩ := hl.generations _ (habort k hk hs)
    exact ⟨k', hk', hkk'.epoch, hkk'.loopAborted rfl, hkk'.watchAborted rfl⟩

/-- A scheduled reconnect says that the feed is reconnecting, unless it is or has been halted. -/
lemma beginReconnect_shows {n : Nat} {r : Reconnect} (hsch : r.scheduled = true)
    (hf : f.WellFormed may) :
    (f.status.isHalted = true ∨ f.status = .reconnecting →
        (f.beginReconnect respond n r).status = f.status ∧
          (f.beginReconnect respond n r).changes = f.changes ∧
          (f.beginReconnect respond n r).published = f.published) ∧
      (f.status.isHalted = false → f.status ≠ .reconnecting →
        .reconnecting :: f.changes <:+ (f.beginReconnect respond n r).changes ∧
          .reconnecting :: f.published <:+ (f.beginReconnect respond n r).published) := by
  have hhalt : f.haltTasks.status = f.status ∧ f.haltTasks.changes = f.changes ∧
      f.haltTasks.published = f.published := by
    rw [haltTasks_eq]
    exact ⟨rfl, rfl, rfl⟩
  obtain ⟨hstatus, hchanges, hpublished⟩ := hhalt
  rcases beginReconnect_cases respond n r f with ⟨-, hh, he⟩ | ⟨hno, i, ht, he⟩
  · rw [he]
    refine ⟨fun _ => ⟨hstatus, hchanges, hpublished⟩, fun hn => ?_⟩
    rw [hh] at hn
    exact absurd hn (by simp)
  · have hsleep : (i.sleepReconnect n r).status = i.status ∧
        (i.sleepReconnect n r).changes = i.changes ∧
        (i.sleepReconnect n r).published = i.published := ⟨rfl, rfl, rfl⟩
    rw [he, hsleep.1, hsleep.2.1, hsleep.2.2]
    rcases ht with ⟨hs, rfl⟩ | ⟨hs, ht⟩
    · refine ⟨fun _ => ⟨hstatus, hchanges, hpublished⟩, fun _ hn => ?_⟩
      exact absurd (hstatus.symm.trans hs) hn
    · have hla := ((framed_upkeep may).told hr ht (hf.haltTasks.announce .reconnecting)).2
      refine ⟨fun h => ?_, fun _ _ => ?_⟩
      · rcases h with h | h
        · rw [hno hsch] at h
          exact absurd h (by simp)
        · exact absurd (hstatus.trans h) hs
      · rw [← hchanges, ← hpublished]
        exact ⟨hla.changes, hla.published⟩

end Orderly

/-- Where subscribers to the status refrain from operations, a scheduled reconnect in a feed that is
not halted falls asleep for its own delay, in an epoch of its own. -/
lemma beginReconnect_sleeps {n : Nat} {r : Reconnect}
    (hr : Restrained may respond)
    (hmay : ∀ status operation, ¬ may (.status status) operation) (hf : f.WellFormed may)
    (hn : f.reconnects[n]? = some r) (hh : f.status.isHalted = false) :
    (f.beginReconnect respond n r).status = .reconnecting ∧
      (f.beginReconnect respond n r).slot = none ∧
      (f.beginReconnect respond n r).reconnects[n]? = some { r with
        phase := .asleep (f.after (r.delay.getD (f.backoff.delayFor r.retries)))
          (f.beginReconnect respond n r).epoch } := by
  rcases beginReconnect_cases respond n r f with ⟨-, h, -⟩ | ⟨-, i, ht, he⟩
  · rw [hh] at h
    exact absurd h (by simp)
  · have hgoes := ht.goes hr hmay hf.haltTasks
    obtain ⟨-, hl⟩ := ht.upkeep hr.and.1 hf.haltTasks
    have hlater := (later_haltTasks f).trans hl
    have hslot : i.slot = none := by rw [hgoes.slot, haltTasks_eq]
    have hrec : i.reconnects[n]? = some r := by
      rw [hgoes.reconnects, haltTasks_eq]
      exact hn
    have hafter : ∀ span, i.after span = f.after span := by
      intro span
      unfold after
      rw [hlater.now]
    have hback : i.backoff = f.backoff := by
      unfold backoff
      rw [hlater.settings]
    rw [he, sleepReconnect_eq, hafter, hback]
    refine ⟨hgoes.status, hslot, ?_⟩
    generalize hfields : [("delay_ms", _), ("attempt", _)] = fields
    simp [setReconnect, log, note, hrec]

/-! ### Reconnects that are superseded -/

/-- A reconnect that sleeps wakes up to do nothing once the epoch has passed in which it fell
asleep. -/
lemma endReconnect_superseded {depth m e : Nat} {r : Reconnect} {t : Duration} {k k' : Feed}
    (hm : f.reconnects[m]? = some r) (hp : r.phase = .asleep t e) (hon : Onward f k)
    (he : e < k.epoch) (hk : k.WellFormed may)
    (hs : k.step? depth (.run (.reconnect m) .elapsed) = some k') :
    k' = { k with current := some (.reconnect m) }.setReconnect m .finished := by
  obtain ⟨r', hr', hphase⟩ := hon.reconnects m r hm (by simp [hp])
  cases stepped_of_step? hk hs with
  | @reconnectEnded _ r'' deadline epoch hr'' _ hp'' =>
    rw [hr'] at hr''
    obtain rfl := Option.some.inj hr''
    have hsame : r'.phase = r.phase := by
      rcases hphase with h | h
      · exact h
      · rw [hp''] at h
        exact absurd h (by simp)
    obtain rfl : e = epoch := by
      rw [hsame, hp] at hp''
      exact (ReconnectPhase.asleep.inj hp'').2
    rcases endReconnect_cases (Feed.respond depth) m e r' { k with current := some (.reconnect m) }
      with ⟨-, hend⟩ | ⟨heq, -⟩
    · exact hend
    · exact absurd heq (Nat.ne_of_gt he)

/-- A reconnect is scheduled for the epoch that is current then, whatever step it happens in. -/
lemma Stepped.scheduled {event : Event} (hs : Stepped respond f event f')
    (hr : Orderly may respond) (hf : f.WellFormed may) (hc : f'.claim ≠ f.claim) :
    f'.claim = f'.epoch ∧ ∃ (n : Nat) (r : Reconnect), f'.pending = some n ∧
      f'.reconnects[n]? = some r ∧ r.scheduled = true ∧ r.phase = .waiting ∧ r.aborted = false := by
  obtain ⟨k, hk, hsch⟩ := hs.course hr hf
  cases hsch with
  | no => exact absurd hk.claim hc
  | yes => exact ⟨rfl, _, _, rfl, List.getElem?_concat_length, rfl, rfl, rfl⟩

/-- A reconnect is scheduled for the epoch of its time, and every operation that is accepted before
it first runs ends that epoch. It acts all the same, whatever the epoch is: it ends the current
epoch, aborts the tasks that are held and forgets the session. The status stays as it is if the feed
is halted or reconnecting already, and otherwise the feed goes on to reconnecting. Every reconnect
that sleeps at that time wakes up to do nothing, and unless the feed is halted the scheduled one
sleeps in their place, for the delay of the schedule. -/
theorem scheduled_reconnect_acts {depth : Nat} :
    (∀ (f f' : Feed) (event : Event), Reachable depth anyEvent f →
      f.step? depth event = some f' →
      (f'.claim ≠ f.claim → f'.claim = f'.epoch ∧ ∃ (n : Nat) (r : Reconnect),
        f'.pending = some n ∧ f'.reconnects[n]? = some r ∧ r.scheduled = true ∧
          r.phase = .waiting ∧ r.aborted = false) ∧
      ∀ operation, f.operation? event = some operation → f.Accepts operation →
        f.epoch < f'.epoch) ∧
    ∀ (f f' : Feed) (n : Nat) (r : Reconnect), Reachable depth anyEvent f →
      f.reconnects[n]? = some r → r.scheduled = true →
      f.step? depth (.run (.reconnect n) .first) = some f' →
      f.epoch < f'.epoch ∧ f'.installed = none ∧
      (∀ k ∈ f.generations, f.slot = some k.epoch → k.epoch = f.epoch ∧
        ∃ k' ∈ f'.generations, k'.epoch = k.epoch ∧ k'.loopAborted = true ∧
          k'.watchAborted = true) ∧
      (f'.changes = f.changes ∧ f'.published = f.published ↔
        f.status.isHalted = true ∨ f.status = .reconnecting) ∧
      (f.status.isHalted = false → f.status ≠ .reconnecting →
        .reconnecting :: f.changes <:+ f'.changes ∧
          .reconnecting :: f.published <:+ f'.published) ∧
      (∀ (m : Nat) (r' : Reconnect) (t : Duration) (e : Nat), f.reconnects[m]? = some r' →
        r'.phase = .asleep t e → ∀ k k', Reaches depth anyEvent f' k →
        k.step? depth (.run (.reconnect m) .elapsed) = some k' →
          k' = { k with current := some (.reconnect m) }.setReconnect m .finished) ∧
      (f.Keeps .quietOnStatus → f.status.isHalted = false →
        f'.status = .reconnecting ∧ f'.slot = none ∧
          f'.reconnects[n]? = some { r with
            phase := .asleep (f.after (r.delay.getD (f.backoff.delayFor r.retries)))
              f'.epoch }) := by
  have hwf : ∀ {f : Feed}, Reachable depth anyEvent f → f.WellFormed Conduct.free :=
    fun hr => hr.wellFormed fun _ event _ => event.keeps_free
  have hresp := orderly_respond Conduct.free depth
  refine ⟨fun f f' event hr hs => ?_, fun f f' n r hr hn hsch hs => ?_⟩
  · have hstep := stepped_of_step? (hwf hr) hs
    exact ⟨hstep.scheduled hresp (hwf hr), fun operation ho ha => hstep.lt_epoch (hwf hr) ho ha⟩
  have hf := hwf hr
  have hf' : f'.WellFormed Conduct.free := wellFormed_step hf (Event.keeps_free _) hs
  have hstep := stepped_of_step? hf hs
  have hon : Onward f f' := hstep.onward hresp hf
  cases hstep with
  | @reconnectBegan _ r₀ hn₀ _ hp =>
    obtain rfl : r = r₀ := Option.some.inj (hn.symm.trans hn₀)
    have hturn := hf.turn (.reconnect n) (by simp)
    have hlt := lt_epoch_beginReconnect hresp n r hturn
    obtain ⟨hnone, haborts⟩ := beginReconnect_halts hresp n r hturn
    obtain ⟨hsame, hshown⟩ := beginReconnect_shows (n := n) hresp hsch hturn
    refine ⟨hlt, hnone, fun k hk hslot => ⟨(hf.slot _ hslot).1, haborts k hk hslot⟩,
      ⟨fun ⟨hc, _⟩ => ?_, fun h => (hsame h).2⟩, hshown, ?_, fun hq hh => ?_⟩
    · by_contra hno
      obtain ⟨hh, hne⟩ := not_or.1 hno
      have hlen := (hshown (by simpa using hh) hne).1.length_le
      rw [hc] at hlen
      exact absurd hlen (Nat.not_succ_le_self _)
    · intro m r' t e hm hp' k k' hreach hs'
      obtain ⟨hk, hfk⟩ := hreach.onward hf' fun _ event _ => event.keeps_free
      have he : e < k.epoch :=
        Nat.lt_of_lt_of_le (Nat.lt_of_le_of_lt (hf.asleep m r' hm t e hp') hlt) hfk.epoch
      exact endReconnect_superseded hm hp' (hon.trans hfk) he hk hs'
    · have hfq : { f with current := some (.reconnect n) }.WellFormed Conduct.quietOnStatus :=
        hturn.of_keeps (hq.congr rfl)
      exact beginReconnect_sleeps ((conducted_quiet _).respond depth) Conduct.not_quietOnStatus hfq
        hn hh

/-- A connection that is lost, and the reconnect that is scheduled then, which runs when the feed
has been started again. -/
theorem scheduled_reconnect_acts_instances :
    (∃ f f' : Feed, f.claim = 0 ∧ f.step? 0 (.run (.loop 1) .ended) = some f' ∧
      f'.claim = 1 ∧ f'.epoch = 1) ∧
    ∃ f f' : Feed, f.status = .initializing ∧ f.slot = some 2 ∧
      f.step? 0 (.run (.reconnect 0) .first) = some f' ∧ f.epoch < f'.epoch ∧
      f'.status = .reconnecting ∧ f'.slot = none ∧
      ∃ k ∈ f'.generations, k.epoch = 2 ∧ k.loopAborted = true ∧ k.watchAborted = true := by
  let events : List Event :=
    [.call (.start 0), .run (.loop 1) .first, .run (.loop 1) (.connected 0)]
  constructor
  · have hplay : ((played? 0 events).bind fun f =>
        (f.step? 0 (.run (.loop 1) .ended)).map fun f' => (f.claim, f'.claim)) =
        some (0, 1) := by decide +kernel
    obtain ⟨f, hf, hplay⟩ := Option.bind_eq_some_iff.1 hplay
    obtain ⟨f', hs, hview⟩ := Option.map_eq_some_iff.1 hplay
    obtain ⟨hold, hnew⟩ := Prod.mk.inj hview
    have hclaim := ((scheduled_reconnect_acts.1 f f' _ (.of_played? hf fun _ _ _ => trivial) hs).1
      (by simp [hold, hnew])).1
    exact ⟨f, f', hold, hs, hnew, hclaim ▸ hnew⟩
  · let after : List Event := events ++ [.run (.loop 1) .ended, .call (.start 0)]
    have hplay : ((played? 0 after).map fun f =>
        (f.status, f.slot, decide (∃ k ∈ f.generations, k.epoch = 2),
          (f.reconnects[0]?).map Reconnect.scheduled,
          (f.step? 0 (.run (.reconnect 0) .first)).isSome)) =
        some (.initializing, some 2, true, some true, true) := by decide +kernel
    obtain ⟨f, hf, hview⟩ := Option.map_eq_some_iff.1 hplay
    simp only [Prod.mk.injEq, decide_eq_true_eq, Option.map_eq_some_iff,
      Option.isSome_iff_exists] at hview
    obtain ⟨hstatus, hslot, ⟨k, hk, hke⟩, ⟨r, hn, hsch⟩, f', hs⟩ := hview
    have hquiet : f.Keeps .quietOnStatus :=
      keeps_of_played? hf (by simp [after, events, Event.Keeps])
    obtain ⟨hlt, -, haborts, -, -, -, hsleeps⟩ := scheduled_reconnect_acts.2 f f' 0 r
      (.of_played? hf fun _ _ _ => trivial) hn hsch hs
    obtain ⟨-, k', hk', hkk', hloop, hwatch⟩ := haborts k hk (hke ▸ hslot)
    obtain ⟨hnew, hnone, -⟩ := hsleeps hquiet (by rw [hstatus]; rfl)
    exact ⟨f, f', hstatus, hslot, hs, hlt, hnew, hnone, k', hk', hkk'.trans hke, hloop, hwatch⟩

/-- A scheduled reconnect that runs when the feed has been started again and is connected: it aborts
the later generation. And one that runs when the caller has asked for a reconnect after a minute:
the feed starts again after ten milliseconds. -/
theorem scheduled_reconnect_undoes_operations :
    (∃ f f' : Feed, Reachable 0 anyEvent f ∧ f.claim = 1 ∧ f.epoch = 2 ∧
      f.step? 0 (.run (.reconnect 0) .first) = some f' ∧ f'.epoch = 3 ∧
      f.status = .connected ∧ f'.status = .reconnecting ∧
      f.installed = some 2 ∧ f'.installed = none ∧
      ∃ k ∈ f'.generations, k.epoch = 2 ∧ k.loopAborted = true) ∧
    ∃ f f' f'' : Feed, Reachable 0 anyEvent f ∧ f.claim = 1 ∧ f.epoch = 2 ∧
      f.reconnects[1]?.map Reconnect.phase = some (.asleep (.ofSeconds 60) 2) ∧
      f.step? 0 (.run (.reconnect 0) .first) = some f' ∧
      f'.run? 0 [.tick (.ofMillis 10), .run (.reconnect 0) .elapsed] = some f'' ∧
      f''.status = .initializing ∧ f''.epoch = 4 := by
  let events : List Event :=
    [.call (.start 0), .run (.loop 1) .first, .run (.loop 1) (.connected 0),
      .run (.loop 1) .ended]
  constructor
  · let after : List Event :=
      events ++ [.call (.start 0), .run (.loop 2) .first, .run (.loop 2) (.connected 0)]
    have hplay : ((played? 0 after).bind fun f =>
        (f.step? 0 (.run (.reconnect 0) .first)).map fun f' =>
          ((f.claim, f.epoch, f'.epoch), (f.status, f'.status), (f.installed, f'.installed),
            decide (∃ k ∈ f'.generations, k.epoch = 2 ∧ k.loopAborted = true))) =
        some ((1, 2, 3), (.connected, .reconnecting), (some 2, none), true) := by decide +kernel
    obtain ⟨f, hf, hplay⟩ := Option.bind_eq_some_iff.1 hplay
    obtain ⟨f', hs, hview⟩ := Option.map_eq_some_iff.1 hplay
    simp only [Prod.mk.injEq, decide_eq_true_eq] at hview
    obtain ⟨⟨hclaim, hold, hnew⟩, ⟨hst, hst'⟩, ⟨hi, hi'⟩, haborted⟩ := hview
    exact ⟨f, f', .of_played? hf fun _ _ _ => trivial, hclaim, hold, hs, hnew, hst, hst', hi, hi',
      haborted⟩
  · let after : List Event :=
      events ++ [.call (.reconnect (some (.ofSeconds 60)) 0), .run (.reconnect 1) .first]
    have hplay : ((played? 0 after).bind fun f =>
        (f.step? 0 (.run (.reconnect 0) .first)).bind fun f' =>
          (f'.run? 0 [.tick (.ofMillis 10), .run (.reconnect 0) .elapsed]).map fun f'' =>
            (f.claim, f.epoch, f.reconnects[1]?.map Reconnect.phase, f''.status, f''.epoch)) =
        some (1, 2, some (.asleep (.ofSeconds 60) 2), .initializing, 4) := by decide +kernel
    obtain ⟨f, hf, hplay⟩ := Option.bind_eq_some_iff.1 hplay
    obtain ⟨f', hs, hplay⟩ := Option.bind_eq_some_iff.1 hplay
    obtain ⟨f'', hs', hview⟩ := Option.map_eq_some_iff.1 hplay
    simp only [Prod.mk.injEq] at hview
    obtain ⟨hclaim, hepoch, hasleep, hstatus, hlast⟩ := hview
    exact ⟨f, f', f'', .of_played? hf fun _ _ _ => trivial, hclaim, hepoch, hasleep, hs, hs',
      hstatus, hlast⟩

end EventFeed.Feed
