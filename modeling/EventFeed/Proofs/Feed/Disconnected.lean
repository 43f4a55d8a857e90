import EventFeed.Proofs.Feed.Passing
import EventFeed.Proofs.Feed.Restraint

/-!
# The end of a disconnect

A disconnect waits for the read loop that was held, and meanwhile anything may be asked for. If
nothing is, then nothing is held when the disconnect comes to its end, and a feed that is
disconnected has no read loop that runs on. The end itself does not look at the epoch, though: it
forgets the session that is installed and goes on to say that the feed is disconnected, also after
an operation in between that began another generation or stopped the feed. Such a disconnect is
overtaken, and its end leaves the read loop of the later generation running in a feed that is
disconnected.
-/

namespace EventFeed

/-- The read loop of a generation has not come to its end, and nobody has told it to. -/
structure Generation.Running (g : Generation) : Prop where
  loop : g.loop ≠ .finished
  free : g.loopAborted = false
  unasked : g.signalled = false

instance (g : Generation) : Decidable g.Running :=
  decidable_of_iff (g.loop ≠ .finished ∧ g.loopAborted = false ∧ g.signalled = false)
    ⟨fun ⟨loop, free, unasked⟩ => ⟨loop, free, unasked⟩, fun h => ⟨h.loop, h.free, h.unasked⟩⟩

namespace Feed

variable {may : Conduct} {respond : Respond} {f f' g : Feed}

/-- A disconnect waits for a read loop, and an operation has been accepted since it began to. -/
def Overtaken (f : Feed) (n : Nat) : Prop :=
  ∃ d e t, f.disconnects[n]? = some d ∧ d.phase = .joining e t ∧ e + 1 < f.epoch

instance (f : Feed) (n : Nat) : Decidable (f.Overtaken n) :=
  match h : f.disconnects[n]? with
  | some { phase := .joining e t, aborted } =>
    decidable_of_iff (e + 1 < f.epoch) (by simp [Overtaken, h])
  | some { phase := .waiting, aborted } => isFalse (by simp [Overtaken, h])
  | some { phase := .finished, aborted } => isFalse (by simp [Overtaken, h])
  | none => isFalse (by simp [Overtaken, h])

/-- An event is not the end of a disconnect that has been overtaken. -/
def InTime (f : Feed) (event : Event) : Prop :=
  ∀ n wake, event = .run (.disconnect n) wake → ¬ f.Overtaken n

/-- Nothing that can be seen of the status, and no session, has changed. -/
structure Intact (f g : Feed) : Prop where
  status : g.status = f.status
  changes : g.changes = f.changes
  published : g.published = f.published
  installed : g.installed = f.installed

/-! ### What is held -/

/-- No generation is held as long as no operation has come in between. -/
lemma WellFormed.slot_of_joining (hf : f.WellFormed may) {n e : Nat} {d : Disconnect}
    {t : Duration} (hd : f.disconnects[n]? = some d) (hp : d.phase = .joining e t)
    (hn : ¬ f.Overtaken n) : f.slot = none := by
  have hended := hf.joining n d hd e t hp
  have hepoch : f.epoch = e + 1 := by
    have hle : ¬ e + 1 < f.epoch := fun hlt => hn ⟨d, e, t, hd, hp, hlt⟩
    have hlt := hended.past
    omega
  cases hs : f.slot with
  | none => rfl
  | some k =>
    obtain ⟨hk, g, hg, hge⟩ := hf.slot k hs
    exact absurd (hge.trans (hk.trans hepoch)) (hended.barren g hg)

/-- Where no generation is held, no read loop runs that nobody has told to end. -/
lemma WellFormed.not_running (hf : f.WellFormed may) (hs : f.slot = none) :
    ∀ g ∈ f.generations, ¬ g.Running := by
  intro g hg hrun
  have hsig := (hf.released g hg (by simp [hs])).signalled
  rw [hrun.unasked] at hsig
  exact absurd hsig (by simp)

/-- In a feed that is disconnected no generation is held. -/
def Vacant (f : Feed) : Prop :=
  f.status = .disconnected → f.slot = none

/-- What happens to subscribers alone has nothing to do with what is held. -/
lemma framed_vacant (may : Conduct) :
    Framed may (WellFormed may) fun _ f g => Vacant f → Vacant g where
  keeps h := h.keeps
  refl _ _ := id
  trans hf hg h := hg (hf h)
  aside he hk hf := by
    refine ⟨hf.of_engine he hk, fun h => ?_⟩
    unfold Vacant
    rw [eq_of_engine he Feed.status fun _ => rfl, eq_of_engine he Feed.slot fun _ => rfl]
    exact h

section Vacant

variable (hr : Orderly may respond)
variable (hv : Respects (WellFormed may) (fun _ f g => Vacant f → Vacant g) respond)

include hv

/-- An announcement in a feed that holds nothing, or of anything but a disconnect, leaves nothing
held in a feed that is disconnected. -/
lemma Told.vacant {s : ConnectionState} (ht : Told respond s f g) (hf : f.WellFormed may)
    (h : s = .disconnected → f.slot = none) : Vacant g :=
  ((framed_vacant may).told hv ht (hf.announce s)).2 h

/-- So does going on to a status. -/
lemma Entered.vacant {s : ConnectionState} (ht : Entered respond s f g) (hf : f.WellFormed may)
    (h : s = .disconnected → f.slot = none) : Vacant g := by
  rcases ht with ⟨hs, rfl⟩ | ⟨-, ht⟩
  · exact fun hd => h (hs.symm.trans hd)
  · exact ht.vacant hv hf h

/-- A start leaves nothing held in a feed that is disconnected. -/
lemma Started.vacant {retries : UInt32} (hs : Started respond retries f g) (hf : f.WellFormed may)
    (h : Vacant f) : Vacant g := by
  cases hs with
  | refused => exact h
  | overtaken _ ht _ => exact ht.vacant hv hf (by simp)
  | @begun k _ _ hk =>
    intro hd
    have hstatus : (k.generate retries).status = k.status := by
      unfold generate
      rw [abortSlot_eq]
    rw [hstatus, hk] at hd
    exact absurd hd (by simp)

/-- The first part of a reconnect leaves nothing held in a feed that is disconnected. -/
lemma vacant_beginReconnect (hf : f.WellFormed may) (n : Nat) (r : Reconnect) :
    Vacant (f.beginReconnect respond n r) := by
  rcases beginReconnect_cases respond n r f with ⟨-, -, he⟩ | ⟨-, k, ht, he⟩
  · rw [he, haltTasks_eq]
    exact fun _ => rfl
  · have hk : Vacant k := ht.vacant hv hf.haltTasks (by simp)
    rw [he]
    exact hk

/-- The last part of a disconnect leaves nothing held if nothing was. -/
lemma vacant_endDisconnect (hf : f.WellFormed may) (n : Nat) (hs : f.slot = none) :
    Vacant (f.endDisconnect respond n) := by
  obtain ⟨k, ht, he⟩ := endDisconnect_cases respond n f
  have hi : { f with installed := none }.WellFormed may := hf.uninstall
  have hk : Vacant k := ht.vacant hv hi fun _ => hs
  rw [he]
  exact hk

include hr

/-- The first part of a disconnect leaves nothing held. -/
lemma vacant_beginDisconnect (hf : f.WellFormed may) (n : Nat) :
    Vacant (f.beginDisconnect respond n) := by
  obtain ⟨k, ht, he⟩ := beginDisconnect_cases respond n f
  have hk := (ht.upkeep hr hf).1
  rcases he with ⟨hs, he⟩ | ⟨e, -, he⟩
  · rw [he]
    exact vacant_endDisconnect hv (hk.abortPending_passEpoch hs) n rfl
  · rw [he]
    exact fun _ => rfl

end Vacant

/-- On top of the bookkeeping, operations leave nothing held in a feed that is disconnected. -/
theorem conducted_vacant (may : Conduct) :
    Conducted may (WellFormed may) fun _ f g => f.Later g ∧ (Vacant f → Vacant g) := by
  refine (conducted_upkeep may).and (framed_vacant may) ?_ ?_ ?_ ?_
  · intro respond _ hv _ _ retries f hf h
    exact (started_start respond retries f).vacant hv hf h
  · intro _ _ _ _ _ f hf _
    unfold stop
    rw [haltTasks_eq]
    exact fun _ => rfl
  · intro _ _ hv _ _ delay retries f hf _
    have hadd : (f.addReconnect delay retries).2.WellFormed may := hf.appendReconnect hf.claim rfl
    exact vacant_beginReconnect hv hadd _ _
  · intro _ hr hv _ _ f hf _
    exact vacant_beginDisconnect hr hv hf.addDisconnect _

/-! ### Coming to the end -/

/-- Before its end a disconnect aborts at most the read loop that it waits for. -/
structure Closes (e : Nat) (f g : Feed) : Prop where
  status : g.status = f.status
  slot : g.slot = f.slot
  epoch : g.epoch = f.epoch
  subscribers : g.subscribers = f.subscribers
  changes : g.changes = f.changes
  published : g.published = f.published
  generations : ∃ c : Generation → Generation, g.generations = f.generations.map c ∧
    ∀ k, (c k).epoch = k.epoch ∧ (c k).signalled = k.signalled ∧ (k.epoch ≠ e → c k = k)

/-- A disconnect that waits comes to its end when it runs. -/
lemma Stepped.closes {n e : Nat} {d : Disconnect} {t : Duration} {wake : Wake}
    (hs : Stepped respond f (.run (.disconnect n) wake) f') (hf : f.WellFormed may)
    (hd : f.disconnects[n]? = some d) (hp : d.phase = .joining e t) :
    ∃ k, f' = k.endDisconnect respond n ∧ k.WellFormed may ∧ Closes e f k := by
  have hturn := hf.turn (.disconnect n) (by simp)
  cases hs with
  | disconnectBegan hd' hw =>
    rw [hd] at hd'
    rw [← Option.some.inj hd', hp] at hw
    exact absurd hw (by simp)
  | disconnectJoined =>
    exact ⟨_, rfl, hturn, rfl, rfl, rfl, rfl, rfl, rfl, id, (List.map_id _).symm,
      fun _ => ⟨rfl, rfl, fun _ => rfl⟩⟩
  | @disconnectAbandoned _ d' epoch deadline hd' hp' =>
    obtain rfl : epoch = e := by
      rw [hd] at hd'
      rw [← Option.some.inj hd', hp] at hp'
      exact (DisconnectPhase.joining.inj hp').1.symm
    refine ⟨_, rfl, ?_, rfl, rfl, rfl, rfl, rfl, rfl, _, rfl, fun k => ?_⟩
    · have hlog := hturn.log .warn "Read loop did not close in time, aborting"
      exact (hlog _).abandon (hf.joining n d hd epoch t hp).past
    · by_cases hk : k.epoch = epoch
      · simp [hk]
      · simp [hk]

/-- The read loops that run are the same before the end of a disconnect, since the one that it waits
for has been asked to end. -/
lemma Closes.running_iff {e : Nat} (h : Closes e f g) (hf : f.WellFormed may) (he : e < f.epoch)
    (j : Nat) :
    (∃ k ∈ g.generations, k.epoch = j ∧ k.Running) ↔
      ∃ k ∈ f.generations, k.epoch = j ∧ k.Running := by
  obtain ⟨c, hc, hck⟩ := h.generations
  -- A generation that changes at all has been asked to end before.
  have hsame : ∀ k ∈ f.generations, k.signalled = false → c k = k := by
    intro k hk hsig
    refine (hck k).2.2 fun hke => ?_
    have hslot : f.slot ≠ some k.epoch := by
      intro hs
      have := (hf.slot _ hs).1
      omega
    rw [(hf.released k hk hslot).signalled] at hsig
    exact absurd hsig (by simp)
  rw [hc]
  constructor
  · rintro ⟨k', hk', hj, hrun⟩
    obtain ⟨k, hk, rfl⟩ := List.mem_map.1 hk'
    have hck' := hsame k hk ((hck k).2.1 ▸ hrun.unasked)
    rw [hck'] at hj hrun
    exact ⟨k, hk, hj, hrun⟩
  · rintro ⟨k, hk, hj, hrun⟩
    exact ⟨k, List.mem_map.2 ⟨k, hk, hsame k hk hrun.unasked⟩, hj, hrun⟩

/-- What has been seen of the status is seen after operations as well. -/
lemma Later.changes (h : f.Later g) : f.changes <:+ g.changes := by
  rw [← changes_engine f, ← changes_engine g]
  exact h.journal.filterMap _

/-- What has been published of the status stays so after operations as well. -/
lemma Later.published (h : f.Later g) : f.published <:+ g.published := by
  rw [← published_engine f, ← published_engine g]
  exact h.journal.filterMap _

/-- At its end a disconnect forgets the session and says that the feed is disconnected, unless the
feed is. -/
lemma endDisconnect_shows (hr : Orderly may respond) (hf : f.WellFormed may) (n : Nat) :
    (f.endDisconnect respond n).installed = none ∧
      (f.status = .disconnected →
        (f.endDisconnect respond n).status = f.status ∧
          (f.endDisconnect respond n).changes = f.changes ∧
          (f.endDisconnect respond n).published = f.published) ∧
      (f.status ≠ .disconnected →
        .disconnected :: f.changes <:+ (f.endDisconnect respond n).changes ∧
          .disconnected :: f.published <:+ (f.endDisconnect respond n).published) := by
  obtain ⟨k, ht, he⟩ := endDisconnect_cases respond n f
  have hi : { f with installed := none }.WellFormed may := hf.uninstall
  have hl := (ht.upkeep hr hi).2
  have hinstalled : k.installed = none := by
    rcases hl.installed with h | h
    · exact h
    · exact h
  rw [he]
  refine ⟨hinstalled, fun hs => ?_, fun hs => ?_⟩
  · rcases ht with ⟨-, rfl⟩ | ⟨hne, -⟩
    · exact ⟨rfl, rfl, rfl⟩
    · exact absurd hs hne
  · rcases ht with ⟨heq, -⟩ | ⟨-, ht⟩
    · exact absurd heq hs
    · have hla := ((framed_upkeep may).told hr ht (hi.announce .disconnected)).2
      exact ⟨hla.changes, hla.published⟩

/-! ### Steps -/

section Vacant

variable (hr : Orderly may respond)
variable (hv : Respects (WellFormed may) (fun _ f g => Vacant f → Vacant g) respond)

include hv

/-- The report of a lost connection leaves nothing held in a feed that is disconnected. -/
lemma vacant_connectionLost (hf : f.WellFormed may) (h : Vacant f) (epoch : Nat)
    (retries : UInt32) : Vacant (f.connectionLost respond epoch retries) := by
  rcases connectionLost_cases respond epoch retries f with ⟨-, he⟩ | ⟨-, -, k, ht, he⟩
  · rwa [he]
  · have hk : Vacant k := ht.vacant hv hf (by simp)
    rw [he]
    rcases scheduleReconnect_cases epoch retries k with ⟨-, hs⟩ | ⟨-, -, hs⟩
    · rwa [hs]
    · rw [hs]
      exact hk

/-- The publication of an event leaves nothing held in a feed that is disconnected. -/
lemma vacant_publishEvent (hf : f.WellFormed may) (h : Vacant f) (event : RoutedEvent) :
    Vacant (publishEvent respond event f).2 := by
  have hn : (f.note (.eventPublished event)).WellFormed may := hf.note _
  exact ((framed_vacant may).publishEvent hv hn).2 h

omit hv in
/-- Work of read loops has nothing to do with what is held. -/
lemma Busy.vacant (hb : f.Busy g) (h : Vacant f) : Vacant g := by
  obtain ⟨_, _, _, _, _, rfl⟩ := hb.rest
  exact h

/-- The step of a read loop leaves nothing held in a feed that is disconnected. -/
lemma LoopRun.vacant {k : Generation} (hs : LoopRun respond k f f')
    (hf : k.loop ≠ .waiting → f.WellFormed may) (h : Vacant f) : Vacant f' := by
  cases hs with
  | began => exact h
  | ended => exact h
  | worked _ _ hb => exact hb.vacant h
  | opened hl socket =>
    have hf := hf (by simp [hl])
    obtain ⟨j, hb, -, hj⟩ := loopConnected_cases respond k.epoch socket f
    have hjv : Vacant j := hb.vacant h
    rcases hj with ⟨-, he⟩ | ⟨-, -, he⟩ | ⟨-, -, -, i, ht, he⟩
    · rw [he]
      exact hjv
    · rw [he]
      exact hjv
    · have hjf := hf.busy hb
      have hi : (j.install k.epoch).WellFormed may := hjf.install _
      have hiv : Vacant i := ht.vacant hv hi (by simp)
      rw [he]
      exact hiv
  | failed hl _ error =>
    obtain ⟨j, hb, -, he⟩ := failLoop_eq respond k.epoch error f
    rw [he]
    exact vacant_connectionLost hv ((hf hl).busy hb) (hb.vacant h) _ _
  | published hl hb _ event =>
    exact vacant_publishEvent hv ((hf (by simp [hl])).busy hb) (hb.vacant h) event

/-- A call of the caller leaves nothing held in a feed that is disconnected. -/
lemma vacant_doCall {call : Call} (hf : f.WellFormed may) (h : Vacant f) :
    Vacant (f.doCall respond call) := by
  cases call with
  | start retries => exact (started_start respond retries f).vacant hv hf h
  | stop =>
    simp only [doCall, stop, haltTasks_eq]
    exact fun _ => rfl
  | reconnect => exact h
  | disconnect => exact h
  | subscribe target => cases target <;> exact h
  | unsubscribe handle =>
    have he := engine_unsubscribe f handle
    simp only [doCall, Vacant, eq_of_engine he Feed.status fun _ => rfl,
      eq_of_engine he Feed.slot fun _ => rfl]
    exact h
  | publishStatus status =>
    have hn : (f.note (.statusPublished status)).WellFormed may := hf.note _
    exact ((framed_vacant may).publishStatus hv hn).2 h
  | publishEvent event => exact vacant_publishEvent hv hf h event
  | release =>
    simp only [doCall, release, haltTasks_eq]
    exact fun _ => rfl

include hr

/-- A step leaves nothing held in a feed that is disconnected, unless a disconnect comes to its end
that has been overtaken. -/
lemma Stepped.vacant {event : Event} (hs : Stepped respond f event f') (hf : f.WellFormed may)
    (hn : f.InTime event) (h : Vacant f) : Vacant f' := by
  have hstep := hs
  cases hs with
  | called call =>
    exact vacant_doCall hv hf.noTurn h
  | looped hg _ hrun => exact hrun.vacant hv (fun hw => hf.setCurrentLoop hg hw) h
  | @watched g _ _ _ _ hrun =>
    cases hrun with
    | ended => exact h
    | slept => exact h
    | reported =>
      have hw := (hf.turn (.watch g.epoch) (by simp)).setWatch g.epoch .finished
      exact vacant_connectionLost hv hw h _ _
  | reconnectBegan => exact vacant_beginReconnect hv (hf.turn (.reconnect _) (by simp)) _ _
  | @reconnectEnded n r deadline epoch =>
    have hend :
        ({ f with current := some (.reconnect n) }.setReconnect n .finished).WellFormed may :=
      (hf.turn (.reconnect n) (by simp)).setReconnect (by simp) n
    rcases endReconnect_cases respond n epoch r { f with current := some (.reconnect n) } with
      ⟨-, he⟩ | ⟨-, -, he⟩
    · rw [he]
      exact h
    · rw [he]
      exact (started_restart respond _ _).vacant hv hend h
  | disconnectBegan => exact vacant_beginDisconnect hr hv (hf.turn (.disconnect _) (by simp)) _
  | disconnectJoined hd hp =>
    obtain ⟨k, he, hk, hc⟩ := hstep.closes hf hd hp
    have hslot := hf.slot_of_joining hd hp (hn _ _ rfl)
    rw [he]
    exact vacant_endDisconnect hv hk _ (hc.slot.trans hslot)
  | disconnectAbandoned hd hp =>
    obtain ⟨k, he, hk, hc⟩ := hstep.closes hf hd hp
    have hslot := hf.slot_of_joining hd hp (hn _ _ rfl)
    rw [he]
    exact vacant_endDisconnect hv hk _ (hc.slot.trans hslot)
  | refreshed hb => exact hb.vacant h
  | ticked => exact h
  | reconnectGivenUp => exact h
  | disconnectGivenUp => exact h

end Vacant

/-! ### Disconnects that are overtaken -/

/-- An operation leaves a disconnect that waits where it is. -/
lemma Stepped.disconnect_of_operation {event : Event} {operation : Operation} {n : Nat}
    {d : Disconnect} (hs : Stepped respond f event f') (hr : Orderly may respond)
    (hf : f.WellFormed may) (hd : f.disconnects[n]? = some d) (hp : d.phase ≠ .waiting)
    (ho : f.operation? event = some operation) : f'.disconnects[n]? = some d := by
  cases hs with
  | called call =>
    cases call with
    | start retries =>
      exact ((started_start respond retries _).upkeep hr hf.noTurn).2.disconnects n d hd
    | stop => exact (upkeep_stop hr hf.noTurn).2.disconnects n d hd
    | _ => exact absurd ho (by simp [operation?])
  | reconnectBegan =>
    obtain ⟨-, k, phase, he, -, hl⟩ :=
      upkeep_beginReconnect hr _ _ (hf.turn (.reconnect _) (by simp))
    rw [he]
    exact hl.disconnects n d hd
  | @disconnectBegan m d' hd' hp' =>
    obtain ⟨-, k, phase, he, hl⟩ :=
      upkeep_beginDisconnect hr m (hf.turn (.disconnect m) (by simp)) ⟨_, hd', hp'⟩
    have hne : m ≠ n := by
      rintro rfl
      rw [hd] at hd'
      exact hp (Option.some.inj hd' ▸ hp')
    rw [he]
    simpa [setDisconnect, List.getElem?_modify, hne] using hl.disconnects n d hd
  | _ => exact absurd ho (by simp [operation?])

/-- In feeds where no disconnect comes to its end that has been overtaken, none that is disconnected
holds a generation. -/
lemma Reachable.vacant {depth : Nat} (hr : Reachable depth InTime f) :
    f.WellFormed Conduct.free ∧ Vacant f := by
  refine hr.invariant Vacant (fun _ event _ => event.keeps_free) ?_ ?_
  · intro settings refreshable f₀ h₀ hs
    obtain ⟨request, rfl⟩ := eq_of_ofSettings h₀
    exact absurd hs (by simp)
  · intro g event h hg ha hv hs
    have hresp := ((conducted_vacant Conduct.free).respond depth).and
    exact (stepped_of_step? hg hs).vacant hresp.1 hresp.2 hg ha hv

/-- What the end of a disconnect comes to, where subscribers to the status refrain from
operations. -/
lemma Closes.endDisconnect_quiet {depth n e : Nat} {k : Feed} (hc : Closes e f k)
    (hk : k.WellFormed Conduct.quietOnStatus) (hf : f.WellFormed may) (he : e < f.epoch) :
    (k.endDisconnect (Feed.respond depth) n).status = .disconnected ∧
      (k.endDisconnect (Feed.respond depth) n).slot = f.slot ∧
      (k.endDisconnect (Feed.respond depth) n).epoch = f.epoch ∧
      ∀ j, (∃ g ∈ (k.endDisconnect (Feed.respond depth) n).generations,
          g.epoch = j ∧ g.Running) ↔ ∃ g ∈ f.generations, g.epoch = j ∧ g.Running := by
  obtain ⟨i, ht, hi⟩ := endDisconnect_cases (Feed.respond depth) n k
  have hki : { k with installed := none }.WellFormed Conduct.quietOnStatus :=
    hk.uninstall
  have hgoes := ht.goes ((conducted_quiet _).respond depth) Conduct.not_quietOnStatus hki
  rw [hi]
  refine ⟨hgoes.status, hgoes.slot.trans hc.slot, hgoes.epoch.trans hc.epoch, fun j => ?_⟩
  have hgen : (i.setDisconnect n .finished).generations = k.generations := hgoes.generations
  rw [hgen]
  exact hc.running_iff hf he j

/-- A disconnect that waits is overtaken by every operation that is accepted, and its end then
undoes that operation: the session is forgotten, and unless the feed is disconnected already it goes
on to say so, with a read loop that runs if there was one. The end leaves a feed intact only if that
is disconnected and has no session installed. As long as no disconnect comes to its end that has
been overtaken, no read loop runs in a feed that is disconnected. -/
theorem disconnect_overtaken {depth : Nat} :
    (∀ f, Reachable depth InTime f → f.status = .disconnected →
      ∀ g ∈ f.generations, ¬ g.Running) ∧
    ∀ (f f' : Feed) (n e : Nat) (d : Disconnect) (t : Duration), Reachable depth anyEvent f →
      f.disconnects[n]? = some d → d.phase = .joining e t →
      (∀ event operation, f.step? depth event = some f' → f.operation? event = some operation →
        f.Accepts operation → f'.Overtaken n) ∧
      (¬ f.Overtaken n → f.slot = none ∧ ∀ g ∈ f.generations, ¬ g.Running) ∧
      ∀ wake, f.step? depth (.run (.disconnect n) wake) = some f' →
        f'.installed = none ∧
        (f.status ≠ .disconnected → .disconnected :: f.changes <:+ f'.changes ∧
          .disconnected :: f.published <:+ f'.published) ∧
        (Intact f f' ↔ f.status = .disconnected ∧ f.installed = none) ∧
        (f.Keeps .quietOnStatus → f'.status = .disconnected ∧ f'.slot = f.slot ∧
          f'.epoch = f.epoch ∧ ∀ j, (∃ g ∈ f'.generations, g.epoch = j ∧ g.Running) ↔
            ∃ g ∈ f.generations, g.epoch = j ∧ g.Running) := by
  refine ⟨fun f hr hs => ?_, fun f f' n e d t hr hd hp => ?_⟩
  · obtain ⟨hf, hv⟩ := hr.vacant
    exact hf.not_running (hv hs)
  have hf : f.WellFormed Conduct.free := hr.wellFormed fun _ event _ => event.keeps_free
  have hpast := (hf.joining n d hd e t hp).past
  refine ⟨fun event operation hs ho ha => ?_, fun hn => ?_, fun wake hs => ?_⟩
  · have hstep := stepped_of_step? hf hs
    have hd' := hstep.disconnect_of_operation (orderly_respond _ depth) hf hd (by simp [hp]) ho
    exact ⟨d, e, t, hd', hp, Nat.lt_of_le_of_lt hpast (hstep.lt_epoch hf ho ha)⟩
  · have hslot := hf.slot_of_joining hd hp hn
    exact ⟨hslot, hf.not_running hslot⟩
  · obtain ⟨k, rfl, hk, hc⟩ := (stepped_of_step? hf hs).closes hf hd hp
    obtain ⟨hinst, hsame, hshown⟩ := endDisconnect_shows (orderly_respond _ depth) hk n
    rw [hc.status, hc.changes, hc.published] at hsame hshown
    refine ⟨hinst, hshown, ⟨fun hi => ?_, fun ⟨hst, hno⟩ => ?_⟩, fun hq => ?_⟩
    · refine ⟨?_, hi.installed ▸ hinst⟩
      by_contra hne
      have hlen := (hshown hne).1.length_le
      rw [hi.changes] at hlen
      exact absurd hlen (Nat.not_succ_le_self _)
    · obtain ⟨h₁, h₂, h₃⟩ := hsame hst
      exact ⟨h₁, h₂, h₃, hinst.trans hno.symm⟩
    · have hkq : k.Keeps .quietOnStatus := hq.congr hc.subscribers
      exact hc.endDisconnect_quiet (hk.of_keeps hkq) hf hpast

/-- A feed that has been started and disconnected, and one that has been stopped before its
disconnect comes to its end. -/
theorem disconnect_overtaken_instances :
    (∃ f : Feed, f.status = .disconnected ∧ f.generations.length = 1 ∧
      ∀ g ∈ f.generations, ¬ g.Running) ∧
    ∃ f f' : Feed, f.step? 0 (.run (.disconnect 0) .joined) = some f' ∧
      f.status = .stopUpdates ∧ f'.status = .disconnected ∧
      .disconnected :: f.published <:+ f'.published ∧ ¬ Intact f f' := by
  constructor
  · let events : List Event := [.call (.start 0), .run (.loop 1) .first, .call .disconnect]
    have hplay : ((played? 0 events).bind fun f₁ =>
        (f₁.step? 0 (.run (.disconnect 0) .first)).bind fun f₂ =>
          (f₂.step? 0 (.run (.loop 1) .shutdown)).bind fun f₃ =>
            (f₃.step? 0 (.run (.disconnect 0) .joined)).map fun f =>
              (decide (f₁.Overtaken 0), decide (f₃.Overtaken 0), f.status, f.generations.length)) =
          some (false, false, .disconnected, 1) := by decide +kernel
    obtain ⟨f₁, hf₁, h⟩ := Option.bind_eq_some_iff.1 hplay
    obtain ⟨f₂, hs₂, h⟩ := Option.bind_eq_some_iff.1 h
    obtain ⟨f₃, hs₃, h⟩ := Option.bind_eq_some_iff.1 h
    obtain ⟨f, hs, hview⟩ := Option.map_eq_some_iff.1 h
    obtain ⟨hn₁, hn₃, hstatus, hlen⟩ : ¬ f₁.Overtaken 0 ∧ ¬ f₃.Overtaken 0 ∧
        f.status = .disconnected ∧ f.generations.length = 1 := by simpa using hview
    have hin : ∀ {g : Feed} {wake : Wake}, ¬ g.Overtaken 0 →
        g.InTime (.run (.disconnect 0) wake) := by
      rintro g wake hn n wake' ⟨⟩
      exact hn
    have hr₁ : Reachable 0 InTime f₁ := by
      refine .of_played? hf₁ fun event he g n wake hrun => ?_
      rw [hrun] at he
      exact absurd he (by simp [events])
    have hr₃ : Reachable 0 InTime f₃ := by
      refine (hr₁.step (hin hn₁) hs₂).step (fun n wake hrun => ?_) hs₃
      exact absurd hrun (by simp)
    exact ⟨f, hstatus, hlen, disconnect_overtaken.1 f (hr₃.step (hin hn₃) hs) hstatus⟩
  · let events : List Event :=
      [.call (.start 0), .run (.loop 1) .first, .call .disconnect, .run (.disconnect 0) .first,
        .call .stop, .run (.loop 1) .shutdown]
    have hplay : ((played? 0 events).map fun f =>
        (f.status, decide (f.Overtaken 0), (f.step? 0 (.run (.disconnect 0) .joined)).isSome)) =
        some (.stopUpdates, true, true) := by decide +kernel
    obtain ⟨f, hf, hview⟩ := Option.map_eq_some_iff.1 hplay
    obtain ⟨hstatus, hover, hsome⟩ : f.status = .stopUpdates ∧ f.Overtaken 0 ∧
        (f.step? 0 (.run (.disconnect 0) .joined)).isSome = true := by simpa using hview
    obtain ⟨f', hs⟩ := Option.isSome_iff_exists.1 hsome
    obtain ⟨d, e, t, hd, hp, -⟩ := hover
    have hquiet : f.Keeps .quietOnStatus := keeps_of_played? hf (by simp [events, Event.Keeps])
    obtain ⟨-, -, hends⟩ := disconnect_overtaken.2 f f' 0 e d t
      (.of_played? hf fun _ _ _ => trivial) hd hp
    obtain ⟨-, hshown, hintact, hleft⟩ := hends .joined hs
    refine ⟨f, f', hs, hstatus, (hleft hquiet).1, (hshown (by simp [hstatus])).2, fun hi => ?_⟩
    exact absurd (hintact.1 hi).1 (by simp [hstatus])

/-- A feed that has been started again before its disconnect comes to its end: it is connected, and
then it is disconnected with its session forgotten and its read loop running. -/
theorem disconnect_undoes_start :
    ∃ f f' : Feed, Reachable 0 anyEvent f ∧ f.Overtaken 0 ∧
      f.step? 0 (.run (.disconnect 0) .joined) = some f' ∧ ¬ Intact f f' ∧
      f.status = .connected ∧ f.installed = some 3 ∧ f'.status = .disconnected ∧
      f'.installed = none ∧ f'.published = .disconnected :: f.published ∧
      ∃ g ∈ f'.generations, g.epoch = 3 ∧ g.Running := by
  let events : List Event :=
    [.call (.start 0), .run (.loop 1) .first, .call .disconnect, .run (.disconnect 0) .first,
      .call (.start 0), .run (.loop 3) .first, .run (.loop 3) (.connected 0),
      .run (.loop 1) .shutdown]
  have hplay : ((played? 0 events).bind fun f =>
      (f.step? 0 (.run (.disconnect 0) .joined)).map fun f' =>
        (decide (f.Overtaken 0), (f.status, f.installed), (f'.status, f'.installed),
          decide (f'.published = .disconnected :: f.published),
          decide (∃ g ∈ f'.generations, g.epoch = 3 ∧ g.Running))) =
      some (true, (.connected, some 3), (.disconnected, none), true, true) := by decide +kernel
  obtain ⟨f, hf, hplay⟩ := Option.bind_eq_some_iff.1 hplay
  obtain ⟨f', hs, hview⟩ := Option.map_eq_some_iff.1 hplay
  simp only [Prod.mk.injEq, decide_eq_true_eq] at hview
  obtain ⟨hover, ⟨hold, hsession⟩, ⟨hnew, hnone⟩, hpublished, hrun⟩ := hview
  refine ⟨f, f', .of_played? hf fun _ _ _ => trivial, hover, hs, fun hi => ?_, hold, hsession, hnew,
    hnone, hpublished, hrun⟩
  rw [hi.status, hold] at hnew
  exact absurd hnew (by simp)

end Feed

end EventFeed
