import EventFeed.Proofs.Feed.Apart
import EventFeed.Proofs.Feed.Diversions
import EventFeed.Proofs.Feed.Superseded
import EventFeed.Proofs.Feed.Within

/-!
# Reconnects that overlap

Any number of reconnects may sleep at the same time, for different delays. Each of them remembers
the epoch in which it fell asleep, and that is not always the epoch that it brought about: it says
first that the feed is reconnecting, and subscribers may operate the feed when they are told. What
makes up for this is that a feed gets to reconnecting only with a new epoch. So if a reconnect finds
its epoch when it wakes up, and the feed reconnecting, then it was reconnecting when the reconnect
fell asleep, and nobody has operated the feed since it said so. There are two gaps: a subscriber may
have begun a reconnect of its own when it was told of the first one, and then both sleep in the same
epoch; and when the feed says that it starts again, a subscriber may stop it and start it.

`Overlapping` is a run in which reconnects begin one after the other and no other operation is
accepted; the one that began last is the only one of them that starts the feed again.
-/

namespace EventFeed.Feed

variable {may : Conduct} {respond : Respond} {f f' g : Feed}

/-! ### A reconnect between its two parts -/

section Orderly

variable (ho : Orderly may respond)

include ho

/-- A reconnect that has begun sleeps in the epoch that it has left behind, or it is a scheduled one
that is at its end. -/
lemma beginReconnect_phase {n : Nat} {r : Reconnect} (hf : f.WellFormed may)
    (hn : f.reconnects[n]? = some r) :
    ∃ r', (f.beginReconnect respond n r).reconnects[n]? = some r' ∧
      ((r.scheduled = true ∧ r'.phase = .finished) ∨
        ∃ t, r'.phase = .asleep t (f.beginReconnect respond n r).epoch) := by
  have hrec : f.haltTasks.reconnects = f.reconnects := by rw [haltTasks_eq]
  rcases beginReconnect_cases respond n r f with ⟨hsch, -, he⟩ | ⟨-, k, ht, he⟩
  · rw [he]
    exact ⟨{ r with phase := .finished }, by simp [setReconnect, hrec, hn], .inl ⟨hsch, rfl⟩⟩
  · obtain ⟨-, hl⟩ := ht.upkeep ho hf.haltTasks
    obtain ⟨r₁, hr₁, -⟩ := hl.reconnects n r (hrec ▸ hn)
    rw [he, sleepReconnect_eq]
    generalize hfields : [("delay_ms", _), ("attempt", _)] = fields
    generalize k.after _ = deadline
    exact ⟨{ r₁ with phase := .asleep deadline k.epoch },
      by simp [setReconnect, log, note, hr₁], .inr ⟨deadline, rfl⟩⟩

end Orderly

/-- When a reconnect has begun and the feed is reconnecting, no operation has been accepted since
the feed was halted, unless subscribers have begun a reconnect of their own. -/
lemma epoch_of_beginReconnect {n : Nat} {r : Reconnect}
    (hr : Respects (WellFormed may) (fun _ => Diverts) respond) (hf : f.WellFormed may)
    (hs : (f.beginReconnect respond n r).status = .reconnecting)
    (hnone : (f.beginReconnect respond n r).reconnects.length = f.reconnects.length) :
    (f.beginReconnect respond n r).epoch = f.epoch + 1 := by
  have hhalt : f.haltTasks.epoch = f.epoch + 1 ∧ f.haltTasks.reconnects = f.reconnects := by
    rw [haltTasks_eq]
    exact ⟨rfl, rfl⟩
  rcases beginReconnect_cases respond n r f with ⟨-, -, he⟩ | ⟨-, k, ht, he⟩
  · rw [he]
    exact hhalt.1
  · rw [he, sleepReconnect_eq, length_setReconnect, ← hhalt.2] at hnone
    rw [he] at hs ⊢
    rcases ht with ⟨-, rfl⟩ | ⟨-, ht⟩
    · exact hhalt.1
    · obtain ⟨-, -, heng | hgrew | ⟨-, hne⟩⟩ := ht.diverts hr hf.haltTasks
      · exact (eq_of_engine heng Feed.epoch fun _ => rfl).trans hhalt.1
      · exact absurd hnone (Nat.ne_of_gt hgrew)
      · exact absurd hs hne

/-- When a reconnect of the caller has begun and no operation has been accepted since the feed was
halted, the feed is reconnecting and holds no generation. -/
lemma status_of_beginReconnect {n : Nat} {r : Reconnect}
    (hr : Respects (WellFormed may) (fun _ => Passes) respond) (hf : f.WellFormed may)
    (hsch : r.scheduled = false) (he : (f.beginReconnect respond n r).epoch = f.epoch + 1) :
    (f.beginReconnect respond n r).status = .reconnecting ∧
      (f.beginReconnect respond n r).slot = none := by
  have hhalt : f.haltTasks.epoch = f.epoch + 1 ∧ f.haltTasks.slot = none := by
    rw [haltTasks_eq]
    exact ⟨rfl, rfl⟩
  rcases beginReconnect_cases respond n r f with ⟨hyes, -, -⟩ | ⟨-, k, ht, hk⟩
  · exact absurd (hsch.symm.trans hyes) (by simp)
  · rw [hk] at he ⊢
    rcases ht with ⟨hs, rfl⟩ | ⟨-, ht⟩
    · exact ⟨hs, hhalt.2⟩
    · rcases ht.passes hr hf.haltTasks with hlt | heng
      · exact absurd (he.trans hhalt.1.symm) (Nat.ne_of_gt hlt)
      · exact ⟨eq_of_engine heng Feed.status fun _ => rfl,
          (eq_of_engine heng Feed.slot fun _ => rfl).trans hhalt.2⟩

/-- A reconnect that wakes up is at its end. If the feed is still reconnecting in the epoch in which
the reconnect fell asleep, the feed starts again. -/
lemma wake_cases {depth n : Nat}
    (hs : f.step? depth (.run (.reconnect n) .elapsed) = some f') :
    ∃ r t e, f.reconnects[n]? = some r ∧ r.phase = .asleep t e ∧ t ≤ f.now ∧
      (((f.epoch ≠ e ∨ f.status ≠ .reconnecting) ∧
          f' = { f with current := some (.reconnect n) }.setReconnect n .finished) ∨
        (f.epoch = e ∧ f.status = .reconnecting ∧
          f' = restart (Feed.respond depth) (f.backoff.nextAttempt r.retries)
            ({ f with current := some (.reconnect n) }.setReconnect n .finished))) := by
  simp only [step?, runTask] at hs
  split at hs
  case isFalse => exact absurd hs (by simp)
  case isTrue =>
    obtain ⟨r, hr, hs⟩ := Option.bind_eq_some_iff.1 hs
    simp only [stepReconnect] at hs
    split at hs
    · next t e hp =>
      split at hs
      · next ht =>
        refine ⟨r, t, e, hr, hp, ht, ?_⟩
        rw [← Option.some.inj hs]
        exact endReconnect_cases (Feed.respond depth) n e r
          { f with current := some (.reconnect n) }
      · exact absurd hs (by simp)
    · exact absurd hs (by simp)

/-- A generation has just begun, with a number of attempts. -/
structure Begun (retries : UInt32) (f : Feed) : Prop where
  status : f.status = .initializing
  slot : f.slot = some f.epoch
  retry : f.retry = { attempt := retries }
  generation : ({ epoch := f.epoch } : Generation) ∈ f.generations

/-- The feed has started again: the epoch has passed, it has said that it connects, and a generation
has begun unless subscribers have moved it on. -/
structure Resumed (retries : UInt32) (f g : Feed) : Prop where
  epoch : f.epoch < g.epoch
  changes : .initializing :: f.changes <:+ g.changes
  begun : g.status = .initializing → g.Begun retries

/-- A feed that is reconnecting starts again at the end of a delay. -/
lemma resumed_restart (ho : Orderly may respond)
    (hr : Respects (WellFormed may) (fun _ => Passes) respond) (retries : UInt32)
    (hf : f.WellFormed may) (hs : f.status = .reconnecting) :
    Resumed retries f (restart respond retries f) := by
  have hlt : f.epoch < (restart respond retries f).epoch :=
    lt_epoch_startWhere hr _ retries hf (by simp [hs]) (by simp [hs])
  unfold restart at hlt ⊢
  rcases startWhere_cases respond (fun f => f.status = .reconnecting) retries f with
    ⟨hno, -⟩ | ⟨-, -, k, ht, hk⟩
  · simp [hs] at hno
  have hl := ((framed_upkeep may).told ho ht (hf.announce _)).2
  rcases hk with ⟨hne, he⟩ | ⟨hi, he⟩
  · rw [he] at hlt ⊢
    exact ⟨hlt, hl.changes, fun hi => absurd hi hne⟩
  · have hgen : (k.generate retries).status = k.status ∧
        (k.generate retries).changes = k.changes := by
      unfold generate
      rw [abortSlot_eq]
      exact ⟨rfl, rfl⟩
    rw [he] at hlt ⊢
    refine ⟨hlt, hgen.2 ▸ hl.changes, fun _ => ⟨hgen.1.trans hi, rfl, rfl, ?_⟩⟩
    exact List.mem_append_right _ List.mem_cons_self

/-- Where subscribers to the status refrain from operations, nobody moves the feed on when it starts
again. -/
lemma status_of_restart (hr : Restrained may respond)
    (hmay : ∀ status operation, ¬ may (.status status) operation) (retries : UInt32)
    (hf : f.WellFormed may) (hs : f.status = .reconnecting) :
    (restart respond retries f).status = .initializing := by
  unfold restart
  rcases startWhere_cases respond (fun f => f.status = .reconnecting) retries f with
    ⟨hno, -⟩ | ⟨-, -, k, ht, ⟨hne, -⟩ | ⟨hi, he⟩⟩
  · simp [hs] at hno
  · exact absurd (ht.goes hr hmay hf).status hne
  · rw [he]
    unfold generate
    rw [abortSlot_eq]
    exact hi

/-- As long as an epoch lasts, a feed that is reconnecting has been so from the start. -/
lemma Reaches.reconnecting {depth : Nat} (h : Reaches depth anyEvent f g)
    (hr : Reachable depth anyEvent f) (he : g.epoch = f.epoch) (hs : g.status = .reconnecting) :
    f.status = .reconnecting := by
  induction h with
  | refl => exact hs
  | @step g h event hg _ hstep ih =>
    obtain ⟨hgf, hp⟩ : g.WellFormed Conduct.free ∧ g.Placed False :=
      (hr.reaches hg).placed False.elim
    have hf : f.WellFormed Conduct.free := hr.wellFormed fun _ event _ => event.keeps_free
    have hfg := (hg.onward hf fun _ event _ => event.keeps_free).2
    have hst := stepped_of_step? hgf hstep
    have hgh := hst.onward (orderly_respond _ depth) hgf
    have hge : g.epoch = f.epoch :=
      Nat.le_antisymm (Nat.le_trans hgh.epoch (Nat.le_of_eq he)) hfg.epoch
    refine ih hge ?_
    rcases (hst.within ((conducted_passes .free).respond depth) hp hgf (he.trans hge.symm)).2 with
      hsame | ⟨-, -, ⟨hc, -⟩ | hl⟩ | ⟨hd, -⟩
    · exact hsame.symm.trans hs
    · exact absurd (hs.symm.trans hc) (by simp)
    · exact absurd (hs.symm.trans hl) (by simp)
    · exact absurd (hs.symm.trans hd) (by simp)

/-! ### Reconnects that have had their time -/

/-- A reconnect has come to its end, or it sleeps and the epoch has passed in which it fell
asleep. -/
def Passed (f : Feed) (n : Nat) : Prop :=
  ∃ r, f.reconnects[n]? = some r ∧
    (r.phase = .finished ∨ ∃ t e, r.phase = .asleep t e ∧ e < f.epoch)

/-- The time of a reconnect that sleeps has passed with the epoch. -/
lemma passed_of_asleep {n e : Nat} {r : Reconnect} {t : Duration} (hr : f.reconnects[n]? = some r)
    (hp : r.phase = .asleep t e) (hon : Onward f g) (he : e < g.epoch) : g.Passed n := by
  obtain ⟨r', hr', hsame | hfin⟩ := hon.reconnects n r hr (by simp [hp])
  · exact ⟨r', hr', .inr ⟨t, e, hsame.trans hp, he⟩⟩
  · exact ⟨r', hr', .inl hfin⟩

/-- It stays so in all that may come. -/
lemma Passed.onward {n : Nat} (h : f.Passed n) (hon : Onward f g) : g.Passed n := by
  obtain ⟨r, hr, hp | ⟨t, e, hp, he⟩⟩ := h
  · obtain ⟨r', hr', hsame | hfin⟩ := hon.reconnects n r hr (by simp [hp])
    · exact ⟨r', hr', .inl (hsame.trans hp)⟩
    · exact ⟨r', hr', .inl hfin⟩
  · exact passed_of_asleep hr hp hon (Nat.lt_of_lt_of_le he hon.epoch)

/-- If it wakes up, it does nothing. -/
lemma Passed.wake {n depth : Nat} (h : f.Passed n)
    (hs : f.step? depth (.run (.reconnect n) .elapsed) = some f') :
    f' = { f with current := some (.reconnect n) }.setReconnect n .finished := by
  obtain ⟨r, hr, hp⟩ := h
  obtain ⟨r', t, e, hr', hp', -, ⟨-, he⟩ | ⟨he, -, -⟩⟩ := wake_cases hs
  · exact he
  · obtain rfl := Option.some.inj (hr.symm.trans hr')
    rw [hp'] at hp
    rcases hp with hp | ⟨t', e', hp, hlt⟩
    · exact absurd hp (by simp)
    · rw [← (ReconnectPhase.asleep.inj hp).2, he] at hlt
      exact absurd hlt (Nat.lt_irrefl e)

/-! ### Reconnects one after the other -/

/-- An operation begins with an event: the caller performs one that the feed does not refuse, or a
reconnect begins, be it a scheduled one. -/
def Intervenes (f : Feed) (event : Event) : Prop :=
  (∃ operation, f.operation? event = some operation ∧ f.Accepts operation) ∨
    ∃ n, event = .run (.reconnect n) .first

/-- An operation that begins ends the epoch. -/
lemma Intervenes.lt_epoch {depth : Nat} {event : Event} (h : f.Intervenes event)
    (hf : f.WellFormed .free) (hs : f.step? depth event = some f') : f.epoch < f'.epoch := by
  have hst := stepped_of_step? hf hs
  rcases h with ⟨operation, hop, ha⟩ | ⟨n, rfl⟩
  · exact hst.lt_epoch hf hop ha
  · cases hst with
    | reconnectBegan =>
      exact lt_epoch_beginReconnect (orderly_respond _ depth) _ _ (hf.turn _ (by simp))

/-- A run in which reconnects have been begun one after the other, the last one named first. Each of
them was asked for by the caller, and no operation was accepted when it was announced or before the
next one began; neither has a disconnect gone on in the meantime. -/
inductive Overlapping (depth : Nat) : List Nat → Feed → Prop
  | none {f : Feed} (hr : Reachable depth anyEvent f) : Overlapping depth [] f
  | begins {ns : List Nat} {f f' : Feed} {n : Nat} (h : Overlapping depth ns f)
      (ho : f.operation? (.run (.reconnect n) .first) = some .reconnect)
      (hs : f.step? depth (.run (.reconnect n) .first) = some f')
      (he : f'.epoch = f.epoch + 1) : Overlapping depth (n :: ns) f'
  | aside {ns : List Nat} {f f' : Feed} {event : Event} (h : Overlapping depth ns f)
      (hd : ∀ m wake, event ≠ .run (.disconnect m) wake) (hs : f.step? depth event = some f')
      (he : f'.epoch = f.epoch) : Overlapping depth ns f'

/-- The feed is reconnecting, and of some reconnects the first one sleeps in the current epoch,
while the time of all others has passed. -/
structure Newest (f : Feed) (n : Nat) (ns : List Nat) : Prop where
  status : f.status = .reconnecting
  slot : f.slot = none
  asleep : ∃ r t, f.reconnects[n]? = some r ∧ r.phase = .asleep t f.epoch
  passed : ∀ m ∈ ns, f.Passed m

lemma Overlapping.reachable {depth : Nat} {ns : List Nat} (h : Overlapping depth ns f) :
    Reachable depth anyEvent f := by
  induction h with
  | none hr => exact hr
  | begins _ _ hs _ ih => exact ih.step trivial hs
  | aside _ _ hs _ ih => exact ih.step trivial hs

/-- A reconnect that begins, with no operation accepted when it is announced, is the newest. -/
lemma newest_of_begins {depth n : Nat} {ns : List Nat} (hf : f.WellFormed .free)
    (ho : f.operation? (.run (.reconnect n) .first) = some .reconnect)
    (hs : f.step? depth (.run (.reconnect n) .first) = some f') (he : f'.epoch = f.epoch + 1)
    (hpassed : ∀ m ∈ ns, f'.Passed m) : f'.Newest n ns := by
  cases stepped_of_step? hf hs with
  | @reconnectBegan _ r hn _ hp =>
    have hturn := hf.turn (.reconnect n) (by simp)
    have hsch : r.scheduled = false := by simpa [operation?, hn] using ho
    obtain ⟨hst, hslot⟩ :=
      status_of_beginReconnect ((conducted_passes .free).respond depth).and.2 hturn hsch he
    obtain ⟨r', hr', ⟨hyes, -⟩ | ⟨t, hphase⟩⟩ :=
      beginReconnect_phase (orderly_respond .free depth) hturn hn
    · exact absurd (hsch.symm.trans hyes) (by simp)
    · exact ⟨hst, hslot, ⟨r', t, hr', hphase⟩, hpassed⟩

/-- When the newest reconnect wakes up, the feed starts again. -/
lemma Newest.wake {depth n : Nat} {ns : List Nat} (h : f.Newest n ns)
    (hs : f.step? depth (.run (.reconnect n) .elapsed) = some f') :
    ∃ r, f.reconnects[n]? = some r ∧
      f' = restart (Feed.respond depth) (f.backoff.nextAttempt r.retries)
        ({ f with current := some (.reconnect n) }.setReconnect n .finished) := by
  obtain ⟨r, t, hr, hp⟩ := h.asleep
  obtain ⟨r', t', e, hr', hp', -, ⟨hno, -⟩ | ⟨-, -, he⟩⟩ := wake_cases hs
  · obtain rfl := Option.some.inj (hr.symm.trans hr')
    rw [hp] at hp'
    rcases hno with hno | hno
    · exact absurd (ReconnectPhase.asleep.inj hp').2 hno
    · exact absurd h.status hno
  · exact ⟨r', hr', he⟩

/-- As long as nothing else begins, the newest reconnect sleeps. -/
lemma Newest.aside {depth n : Nat} {ns : List Nat} {event : Event} (h : f.Newest n ns)
    (hf : f.WellFormed .free) (hp : f.Placed False)
    (hd : ∀ m wake, event ≠ .run (.disconnect m) wake) (hs : f.step? depth event = some f')
    (he : f'.epoch = f.epoch) : f'.Newest n ns := by
  have hst := stepped_of_step? hf hs
  have hon := hst.onward (orderly_respond .free depth) hf
  obtain ⟨hslot, hstatus⟩ := hst.within ((conducted_passes .free).respond depth) hp hf he
  have hrec : f'.status = .reconnecting := by
    rcases hstatus with hsame | ⟨hheld, -⟩ | ⟨-, m, wake, hev⟩
    · exact hsame.trans h.status
    · exact absurd (h.slot.symm.trans hheld) (by simp)
    · exact absurd hev (hd m wake)
  refine ⟨hrec, hslot.trans h.slot, ?_, fun m hm => (h.passed m hm).onward hon⟩
  obtain ⟨r, t, hr, hphase⟩ := h.asleep
  rw [he]
  by_cases ht : Event.task? event = some (.reconnect n)
  · -- The reconnect sleeps, so it can only wake up, and then the epoch passes.
    cases hst with
    | reconnectBegan hn _ hw =>
      obtain rfl : n = _ := Task.reconnect.inj (Option.some.inj ht).symm
      obtain rfl := Option.some.inj (hr.symm.trans hn)
      exact absurd (hphase.symm.trans hw) (by simp)
    | reconnectEnded =>
      obtain rfl : n = _ := Task.reconnect.inj (Option.some.inj ht).symm
      obtain ⟨r', -, hf'⟩ := h.wake hs
      have hend : ({ f with current := some (.reconnect n) }.setReconnect n .finished).WellFormed
          .free := (hf.turn (.reconnect n) (by simp)).setReconnect (by simp) n
      have hlt := (resumed_restart (orderly_respond .free depth)
        ((conducted_passes .free).respond depth).and.2 (f.backoff.nextAttempt r'.retries) hend
        h.status).epoch
      rw [← hf'] at hlt
      exact absurd he (Nat.ne_of_gt hlt)
    | _ => exact absurd ht (by simp [Event.task?])
  · rcases spares_of_step? hf hs with ⟨now, -, -, rfl⟩ | hsp
    · exact ⟨r, t, hr, hphase⟩
    · obtain ⟨r', hr', hsame⟩ := hsp.reconnects n r hr ht
      exact ⟨r', t, hr', hsame.trans hphase⟩

/-- Of reconnects that have been begun one after the other, the last one is the newest. -/
lemma Overlapping.newest {depth n : Nat} {ns : List Nat} (h : Overlapping depth (n :: ns) f) :
    f.Newest n ns := by
  generalize hall : n :: ns = all at h
  induction h generalizing n ns with
  | none => exact absurd hall (by simp)
  | @begins ns' f f' n' h ho hs he ih =>
    obtain ⟨rfl, rfl⟩ := List.cons.inj hall
    have hf : f.WellFormed Conduct.free := h.reachable.wellFormed fun _ event _ => event.keeps_free
    have hon := (stepped_of_step? hf hs).onward (orderly_respond .free depth) hf
    refine newest_of_begins hf ho hs he fun m hm => ?_
    cases ns with
    | nil => exact absurd hm List.not_mem_nil
    | cons n₀ ns₀ =>
      have hnew := ih rfl
      rcases List.mem_cons.1 hm with rfl | hm
      · -- The one that has been the newest so far sleeps in the epoch that ends.
        obtain ⟨r, t, hr, hp⟩ := hnew.asleep
        exact passed_of_asleep hr hp hon (by omega)
      · exact (hnew.passed m hm).onward hon
  | aside h hd hs he ih =>
    have hf := h.reachable.placed False.elim
    exact (ih hall).aside hf.1 hf.2 hd hs he

/-- A reconnect that can wake up does so once its delay has passed, unless it has been given up. -/
lemma isSome_wake {n : Nat} {r : Reconnect} {t : Duration} {e : Nat}
    (hr : f.reconnects[n]? = some r) (hp : r.phase = .asleep t e) (ha : r.aborted = false)
    (ht : t ≤ f.now) (depth : Nat) :
    (f.step? depth (.run (.reconnect n) .elapsed)).isSome = true := by
  have hmay : f.mayRun (.reconnect n) = true := by simp [mayRun, isAborted, hr, ha]
  simp [step?, runTask, hmay, hr, stepReconnect, hp, ht]

/-- Every operation that is not refused ends the epoch, and so does every reconnect that begins. A
reconnect that wakes up comes to its end, and nothing else happens, unless the feed is reconnecting,
the epoch is the one in which the reconnect fell asleep, and no operation has begun since; and none
has been accepted when the reconnect was announced, if no subscriber has begun a reconnect of its
own then. In that case the feed starts again.

If reconnects are begun one after the other, and no other operation is accepted in the meantime,
then the feed is reconnecting, and the last one sleeps in the current epoch. Once its delay has
passed it can wake up unless it has been given up, and when it does, the feed starts again: a
generation begins unless subscribers stop that when they are told. All the others do nothing when
they wake up, before or after. -/
theorem newest_reconnect_acts {depth : Nat} :
    (∀ {f f' : Feed} {event : Event}, Reachable depth anyEvent f →
      f.step? depth event = some f' → f.Intervenes event → f.epoch < f'.epoch) ∧
    (∀ {f : Feed} {n : Nat} {c : Command} {operation : Operation}, f.WellFormed Conduct.free →
      c.operation? = some operation → f.Accepts operation →
      f.epoch < (f.obey (Feed.respond depth) n c).2.epoch) ∧
    (∀ {f f₁ g g' : Feed} {n : Nat}, Reachable depth anyEvent f →
      f.step? depth (.run (.reconnect n) .first) = some f₁ → Reaches depth anyEvent f₁ g →
      g.step? depth (.run (.reconnect n) .elapsed) = some g' →
      g' = { g with current := some (.reconnect n) }.setReconnect n .finished ∨
        (g.status = .reconnecting ∧ g.epoch = f₁.epoch ∧
          (∀ {h h' : Feed} {event : Event}, Reaches depth anyEvent f₁ h →
            h.step? depth event = some h' → Reaches depth anyEvent h' g →
            h'.epoch = h.epoch ∧ ¬ h.Intervenes event) ∧
          (f₁.reconnects.length = f.reconnects.length → f₁.epoch = f.epoch + 1) ∧
          ∃ r, g.reconnects[n]? = some r ∧ Resumed (g.backoff.nextAttempt r.retries) g g')) ∧
    ∀ {f : Feed} {n : Nat} {ns : List Nat}, Overlapping depth (n :: ns) f →
      (∀ m ∈ ns, ∀ {g g' : Feed}, Reaches depth anyEvent f g →
        g.step? depth (.run (.reconnect m) .elapsed) = some g' →
        g' = { g with current := some (.reconnect m) }.setReconnect m .finished) ∧
      ∃ r t, f.reconnects[n]? = some r ∧ r.phase = .asleep t f.epoch ∧
        f.status = .reconnecting ∧
        (r.aborted = false → t ≤ f.now →
          (f.step? depth (.run (.reconnect n) .elapsed)).isSome = true) ∧
        ∀ {f' : Feed}, f.step? depth (.run (.reconnect n) .elapsed) = some f' →
          Resumed (f.backoff.nextAttempt r.retries) f f' ∧
          (f.Keeps .quietOnStatus → f'.status = .initializing) := by
  have hfree : ∀ {k : Feed}, Reachable depth anyEvent k → k.WellFormed Conduct.free :=
    fun hr => hr.wellFormed fun _ event _ => event.keeps_free
  have hresp := orderly_respond Conduct.free depth
  have hpass := ((conducted_passes .free).respond depth).and.2
  have hdivert := ((conducted_diverts .free).respond depth).and.2
  have hend : ∀ {k : Feed} {n : Nat}, k.WellFormed Conduct.free →
      ({ k with current := some (.reconnect n) }.setReconnect n .finished).WellFormed .free :=
    fun hk => (hk.turn (.reconnect _) (by simp)).setReconnect (by simp) _
  refine ⟨fun hr hs hi => hi.lt_epoch (hfree hr) hs, fun hf ho ha => lt_epoch_obey hf ho ha,
    fun {f f₁ g g' n} hr hs hreach hs' => ?_, fun {f n ns} h => ?_⟩
  · have hf := hfree hr
    have hr₁ : Reachable depth anyEvent f₁ := hr.step trivial hs
    have hon := (hreach.onward (hfree hr₁) fun _ event _ => event.keeps_free).2
    cases stepped_of_step? hf hs with
    | @reconnectBegan _ r hn _ hp =>
      have hturn := hf.turn (.reconnect n) (by simp)
      obtain ⟨r₁, hn₁, hphase⟩ := beginReconnect_phase hresp hturn hn
      obtain ⟨r', t', e, hn', hp', -, ⟨-, hidle⟩ | ⟨hepoch, hrec, rfl⟩⟩ := wake_cases hs'
      · exact .inl hidle
      refine .inr ⟨hrec, ?_⟩
      -- The reconnect sleeps in the epoch that it left behind when it began.
      have hsame : g.epoch = ({ f with current := some (.reconnect n) }.beginReconnect
          (Feed.respond depth) n r).epoch := by
        have hw : r₁.phase ≠ .waiting := by rcases hphase with ⟨-, h⟩ | ⟨t, h⟩ <;> simp [h]
        obtain ⟨r₂, hn₂, hold⟩ := hon.reconnects n r₁ hn₁ hw
        obtain rfl := Option.some.inj (hn₂.symm.trans hn')
        rcases hphase with ⟨-, hfin⟩ | ⟨t, hsleep⟩
        · simp [hfin, hp'] at hold
        · simp only [hp', hsleep, reduceCtorEq, or_false] at hold
          rw [hepoch, (ReconnectPhase.asleep.inj hold).2]
      refine ⟨hsame, fun {h h' event} hh hstep hh' => ?_, fun hnone => ?_, r', hn', ?_⟩
      · have hwh := hfree (hr₁.reaches hh)
        have hstep' := stepped_of_step? hwh hstep
        have hwh' := hfree ((hr₁.reaches hh).step trivial hstep)
        have hle := (hh.onward (hfree hr₁) fun _ event _ => event.keeps_free).2.epoch
        have hle' := (hstep'.onward hresp hwh).epoch
        have hle'' := (hh'.onward hwh' fun _ event _ => event.keeps_free).2.epoch
        have heq : h'.epoch = h.epoch := by omega
        exact ⟨heq, fun hi => Nat.ne_of_gt (hi.lt_epoch hwh hstep) heq⟩
      · exact epoch_of_beginReconnect hdivert hturn (hreach.reconnecting hr₁ hsame hrec) hnone
      · obtain ⟨hlt, hsaid, hbegun⟩ := resumed_restart hresp hpass
          (g.backoff.nextAttempt r'.retries) (hend (hfree (hr₁.reaches hreach))) hrec
        exact ⟨hlt, hsaid, hbegun⟩
  · have hf := hfree h.reachable
    have hnew := h.newest
    refine ⟨fun m hm {g g'} hreach hs' => ?_, ?_⟩
    · have hon := (hreach.onward hf fun _ event _ => event.keeps_free).2
      exact ((hnew.passed m hm).onward hon).wake hs'
    obtain ⟨r, t, hr, hp⟩ := hnew.asleep
    refine ⟨r, t, hr, hp, hnew.status, fun ha ht => isSome_wake hr hp ha ht depth,
      fun {f'} hs => ?_⟩
    obtain ⟨r', hr', rfl⟩ := hnew.wake hs
    obtain rfl := Option.some.inj (hr.symm.trans hr')
    obtain ⟨hlt, hsaid, hbegun⟩ := resumed_restart hresp hpass
      (f.backoff.nextAttempt r.retries) (hend hf) hnew.status
    refine ⟨⟨hlt, hsaid, hbegun⟩, fun hq => ?_⟩
    exact status_of_restart ((conducted_quiet _).respond depth) Conduct.not_quietOnStatus _
      ((hend hf).of_keeps (hq.congr rfl)) hnew.status

/-- Three reconnects that overlap. The one that began second wakes up first, and nothing happens;
the one that began last wakes up, and the feed starts again; the first one wakes up at last, and
nothing happens. -/
theorem newest_reconnect_acts_instances :
    ∃ f f₁ f₂ f₃ g g' h h' k k' : Feed,
      f.step? 0 (.run (.reconnect 0) .first) = some f₁ ∧ f.epoch < f₁.epoch ∧
      f.epoch < (f.obey (Feed.respond 0) 0 .stop).2.epoch ∧
      f₁.step? 0 (.run (.reconnect 1) .first) = some f₂ ∧
      f₂.step? 0 (.run (.reconnect 2) .first) = some f₃ ∧ f₃.epoch = f₂.epoch + 1 ∧
      f₃.step? 0 (.tick (.ofSeconds 1)) = some g ∧
      g.step? 0 (.run (.reconnect 1) .elapsed) = some g' ∧
      g' = { g with current := some (.reconnect 1) }.setReconnect 1 .finished ∧
      g'.step? 0 (.tick (.ofSeconds 2)) = some h ∧ h.epoch = f₃.epoch ∧
      h.step? 0 (.run (.reconnect 2) .elapsed) = some h' ∧ h'.slot = some h'.epoch ∧
      h'.step? 0 (.tick (.ofSeconds 3)) = some k ∧
      k.step? 0 (.run (.reconnect 0) .elapsed) = some k' ∧
      k' = { k with current := some (.reconnect 0) }.setReconnect 0 .finished := by
  let events : List Event :=
    [.call (.reconnect (some (.ofSeconds 3)) 0), .call (.reconnect (some (.ofSeconds 1)) 0),
      .call (.reconnect (some (.ofSeconds 2)) 0)]
  have hplay : ((played? 0 events).bind fun f =>
      (f.step? 0 (.run (.reconnect 0) .first)).bind fun f₁ =>
      (f₁.step? 0 (.run (.reconnect 1) .first)).bind fun f₂ =>
      (f₂.step? 0 (.run (.reconnect 2) .first)).bind fun f₃ =>
      (f₃.step? 0 (.tick (.ofSeconds 1))).bind fun g =>
      (g.step? 0 (.run (.reconnect 1) .elapsed)).bind fun g' =>
      (g'.step? 0 (.tick (.ofSeconds 2))).bind fun h =>
      (h.step? 0 (.run (.reconnect 2) .elapsed)).bind fun h' =>
      (h'.step? 0 (.tick (.ofSeconds 3))).bind fun k =>
      (k.step? 0 (.run (.reconnect 0) .elapsed)).map fun _ =>
        ([f.operation? (.run (.reconnect 0) .first), f₁.operation? (.run (.reconnect 1) .first),
            f₂.operation? (.run (.reconnect 2) .first)],
          [f.epoch, f₁.epoch, f₂.epoch, f₃.epoch, g.epoch, g'.epoch, h.epoch],
          [f₂.reconnects.length, f₃.reconnects.length], h'.status)) =
      some ([some .reconnect, some .reconnect, some .reconnect], [0, 1, 2, 3, 3, 3, 3], [3, 3],
        .initializing) := by
    decide +kernel
  obtain ⟨f, hf, hplay⟩ := Option.bind_eq_some_iff.1 hplay
  obtain ⟨f₁, hf₁, hplay⟩ := Option.bind_eq_some_iff.1 hplay
  obtain ⟨f₂, hf₂, hplay⟩ := Option.bind_eq_some_iff.1 hplay
  obtain ⟨f₃, hf₃, hplay⟩ := Option.bind_eq_some_iff.1 hplay
  obtain ⟨g, hg, hplay⟩ := Option.bind_eq_some_iff.1 hplay
  obtain ⟨g', hg', hplay⟩ := Option.bind_eq_some_iff.1 hplay
  obtain ⟨h, hh, hplay⟩ := Option.bind_eq_some_iff.1 hplay
  obtain ⟨h', hh', hplay⟩ := Option.bind_eq_some_iff.1 hplay
  obtain ⟨k, hk, hplay⟩ := Option.bind_eq_some_iff.1 hplay
  obtain ⟨k', hk', hview⟩ := Option.map_eq_some_iff.1 hplay
  simp only [Prod.mk.injEq, List.cons.injEq, and_true] at hview
  obtain ⟨⟨ho, ho₁, ho₂⟩, ⟨e, e₁, e₂, e₃, eg, eg', eh⟩, ⟨hl₂, hl₃⟩, hstatus⟩ := hview
  have hr : Reachable 0 anyEvent f := .of_played? hf fun _ _ _ => trivial
  obtain ⟨hends, hanswer, hwakes, hnewest⟩ := @newest_reconnect_acts 0
  -- The three reconnects begin one after the other, and no operation comes in between.
  have hthree : Overlapping 0 [2, 1, 0] f₃ :=
    (((Overlapping.none hr).begins ho hf₁ (by rw [e, e₁])).begins ho₁ hf₂
      (by rw [e₁, e₂])).begins ho₂ hf₃ (by rw [e₂, e₃])
  have hsleep : Overlapping 0 [2, 1, 0] h :=
    ((hthree.aside (by simp) hg (by rw [eg, e₃])).aside (by simp) hg' (by rw [eg', eg])).aside
      (by simp) hh (by rw [eh, eg'])
  obtain ⟨hothers, -⟩ := hnewest hthree
  obtain ⟨hothers', r, t, -, -, hrec, -, hstarts⟩ := hnewest hsleep
  have hlater : Reaches 0 anyEvent h k := (Reaches.refl.step trivial hh').step trivial hk
  have hone : f₃.epoch = f₂.epoch + 1 := by
    have hr₂ : Reachable 0 anyEvent f₂ := (hr.step trivial hf₁).step trivial hf₂
    have hreach : Reaches 0 anyEvent f₃ h :=
      ((Reaches.refl.step trivial hg).step trivial hg').step trivial hh
    rcases hwakes hr₂ hf₃ hreach hh' with hnot | ⟨-, -, -, hone, -⟩
    · rw [hnot] at hstatus
      exact absurd (hrec.symm.trans hstatus) (by simp)
    · exact hone (hl₃.trans hl₂.symm)
  exact ⟨f, f₁, f₂, f₃, g, g', h, h', k, k', hf₁, hends hr hf₁ (.inr ⟨0, rfl⟩),
    hanswer (hr.wellFormed fun _ event _ => event.keeps_free) rfl (by simp [Accepts]), hf₂, hf₃,
    hone, hg, hg', hothers 1 (by simp) (Reaches.refl.step trivial hg) hg', hh, by rw [eh, e₃], hh',
    ((hstarts hh').1.begun hstatus).slot, hk, hk', hothers' 0 (by simp) hlater hk'⟩

/-- Two reconnects that act although they have been overtaken. A subscriber that is told of the
first one begins another, for a minute; the first one wakes up after a second and starts the feed.
And a subscriber that is told that the feed starts again, at the end of a reconnect, stops it and
starts it: the reconnect puts a generation of its own in the place of the one that has just
begun. -/
theorem overtaken_reconnect_acts :
    (∃ f f₁ g g' : Feed, Reachable 1 anyEvent f ∧
      f.step? 1 (.run (.reconnect 0) .first) = some f₁ ∧
      f₁.step? 1 (.tick (.ofSeconds 1)) = some g ∧
      g.step? 1 (.run (.reconnect 0) .elapsed) = some g' ∧ f₁.epoch = f.epoch + 2 ∧
      f₁.reconnects[1]?.map Reconnect.phase = some (.asleep (.ofSeconds 60) f₁.epoch) ∧
      (g'.status, g'.slot, g'.retry) = (.initializing, some (g.epoch + 1), { attempt := 1 })) ∧
    ∃ f f₁ g g' : Feed, Reachable 2 anyEvent f ∧
      f.step? 2 (.run (.reconnect 0) .first) = some f₁ ∧
      f₁.step? 2 (.tick (.ofSeconds 1)) = some g ∧
      g.step? 2 (.run (.reconnect 0) .elapsed) = some g' ∧
      (f₁.epoch, g.epoch) = (f.epoch + 1, f.epoch + 1) ∧
      g'.changes = [.initializing, .stopUpdates, .initializing] ++ g.changes ∧
      (g'.status, g'.slot, g'.retry) = (.initializing, some (g.epoch + 3), { attempt := 1 }) := by
  let begins : Handler :=
    answering (.status .reconnecting) (.reconnect (some (.ofSeconds 60)) 0)
  let returns : Handler := fun heard =>
    if heard = [.status .initializing, .status .reconnecting] then [.stop, .start 5] else []
  have hfirst : ∃ f ∈ played? 1 [.call (.subscribe .status "begins" begins),
        .call (.reconnect (some (.ofSeconds 1)) 0)],
      ∃ f₁ ∈ f.step? 1 (.run (.reconnect 0) .first), ∃ g ∈ f₁.step? 1 (.tick (.ofSeconds 1)),
        ∃ g' ∈ g.step? 1 (.run (.reconnect 0) .elapsed), f₁.epoch = f.epoch + 2 ∧
          f₁.reconnects[1]?.map Reconnect.phase = some (.asleep (.ofSeconds 60) f₁.epoch) ∧
          (g'.status, g'.slot, g'.retry) =
            (.initializing, some (g.epoch + 1), { attempt := 1 }) := by
    decide +kernel
  have hsecond : ∃ f ∈ played? 2 [.call (.subscribe .status "returns" returns),
        .call (.reconnect (some (.ofSeconds 1)) 0)],
      ∃ f₁ ∈ f.step? 2 (.run (.reconnect 0) .first), ∃ g ∈ f₁.step? 2 (.tick (.ofSeconds 1)),
        ∃ g' ∈ g.step? 2 (.run (.reconnect 0) .elapsed),
          (f₁.epoch, g.epoch) = (f.epoch + 1, f.epoch + 1) ∧
          g'.changes = [.initializing, .stopUpdates, .initializing] ++ g.changes ∧
          (g'.status, g'.slot, g'.retry) =
            (.initializing, some (g.epoch + 3), { attempt := 1 }) := by
    decide +kernel
  obtain ⟨f, hf, f₁, hf₁, g, hg, g', hg', hview⟩ := hfirst
  obtain ⟨i, hi, i₁, hi₁, j, hj, j', hj', hview'⟩ := hsecond
  exact ⟨⟨f, f₁, g, g', .of_played? hf fun _ _ _ => trivial, hf₁, hg, hg', hview⟩,
    i, i₁, j, j', .of_played? hi fun _ _ _ => trivial, hi₁, hj, hj', hview'⟩

end EventFeed.Feed
