import EventFeed.Proofs.Feed.Restraint

/-!
# A feed is never wedged

Someone always takes a feed further that has been started and not halted. While it connects or is
connected, the guardian of the current epoch is awake, and it has the right to schedule a reconnect.
After a loss a reconnect has been scheduled that nobody has aborted. And a feed that is reconnecting
has a reconnect asleep that will find the epoch that it remembers.

`Alive` states this, with what is needed to keep it: in a feed that has lost its connection no read
loop of the current epoch may come back with a session, so it is past connecting; so is the read
loop whose session is installed; and a reconnect that ran last has begun. Subscribers to the status
refrain from operations here. Subscribers to events do as they like, since an event is published
only between two operations.
-/

namespace EventFeed.Feed

variable {may : Conduct} {respond : Respond} {f f' g : Feed}

/-! ### The invariant -/

/-- Somebody will take the feed further, if it has been started and not halted. -/
def Going (f : Feed) : Prop :=
  match f.status with
  | .initializing | .connected =>
    f.claim < f.epoch ∧ ∃ g ∈ f.generations, f.slot = some g.epoch ∧ g.watch ≠ .finished
  | .lostConnection =>
    (∃ (n : Nat) (r : Reconnect), f.reconnects[n]? = some r ∧ r.scheduled = true ∧
      r.phase = .waiting ∧ r.aborted = false) ∧
    ∀ g ∈ f.generations, g.epoch = f.epoch → 2 ≤ g.loop.rank
  | .reconnecting =>
    f.slot = none ∧ ∃ (n : Nat) (r : Reconnect) (t : Duration), f.reconnects[n]? = some r ∧
      r.phase = .asleep t f.epoch ∧ r.aborted = false
  | .notStarted => f.slot = none
  | .reconnectFailed => False
  | .disconnecting | .disconnected | .stopUpdates => True

/-- The read loop whose session is installed is past connecting, and a reconnect whose turn it was
has begun. -/
structure Settled (f : Feed) : Prop where
  opened : ∀ e, f.installed = some e → ∃ g ∈ f.generations, g.epoch = e ∧ 2 ≤ g.loop.rank
  turn : ∀ n, f.current = some (.reconnect n) →
    ∃ r, f.reconnects[n]? = some r ∧ r.phase ≠ .waiting

/-- Somebody will take the feed further, and what is needed for that to stay so. -/
structure Alive (f : Feed) : Prop extends Settled f where
  going : f.Going

/-- A halted feed need not be taken further. -/
lemma going_of_halted (h : f.status.isHalted = true) : f.Going := by
  unfold Going
  cases hs : f.status <;> rw [hs] at h <;> trivial

/-- Whether a feed is going is a matter of its status, its epoch, its slot, and its tasks. -/
lemma Going.congr (h : f.Going)
    (he : (g.status, g.claim, g.epoch, g.slot, g.generations, g.reconnects) =
      (f.status, f.claim, f.epoch, f.slot, f.generations, f.reconnects)) : g.Going := by
  simp only [Prod.mk.injEq] at he
  obtain ⟨status, claim, epoch, slot, generations, reconnects⟩ := he
  unfold Going at h ⊢
  rw [status, claim, epoch, slot, generations, reconnects]
  exact h

/-- What happens to subscribers alone keeps a feed going. -/
lemma Going.of_engine (h : f.Going) (he : g.engine = f.engine) : g.Going :=
  h.congr (eq_of_engine he
    (fun k => (k.status, k.claim, k.epoch, k.slot, k.generations, k.reconnects)) fun _ => rfl)

/-- Operations close no session, and they do not undo that a reconnect has begun. -/
lemma Settled.later (h : f.Settled) (hl : f.Later g) : g.Settled where
  opened := hl.opened Generation.Later.le_rank h.opened
  turn n hn := by
    obtain ⟨r, hr, hp⟩ := h.turn n (hl.current ▸ hn)
    obtain ⟨r', hr', hp'⟩ := hl.reconnects n r hr
    exact ⟨r', hr', hp' ▸ hp⟩

/-- Work of read loops keeps a feed going. -/
lemma Going.busy (h : f.Going) (hb : f.Busy g) : g.Going := by
  obtain ⟨c, hc, hce, hcp⟩ := hb.generations
  obtain ⟨_, _, _, _, _, rfl⟩ := hb.rest
  unfold Going at h ⊢
  dsimp only at hc ⊢
  have hrun : ∀ slot : Option Nat,
      (∃ g ∈ f.generations, slot = some g.epoch ∧ g.watch ≠ .finished) →
      ∃ g ∈ f.generations.map c, slot = some g.epoch ∧ g.watch ≠ .finished := by
    rintro slot ⟨g, hg, hs, hw⟩
    refine ⟨c g, List.mem_map_of_mem hg, by rw [hce, hs], ?_⟩
    rw [(hcp g hg).watch]
    exact hw
  rw [hc]
  cases hs : f.status <;> rw [hs] at h <;> dsimp only at h ⊢
  case initializing => exact ⟨h.1, hrun _ h.2⟩
  case connected => exact ⟨h.1, hrun _ h.2⟩
  case lostConnection =>
    refine ⟨h.1, fun g' hg' he => ?_⟩
    obtain ⟨g, hg, rfl⟩ := List.mem_map.1 hg'
    exact Nat.le_trans (h.2 g hg ((hce g).symm.trans he)) (hcp g hg).loop
  all_goals exact h

/-- Work of read loops closes no session either. -/
lemma Settled.busy (h : f.Settled) (hb : f.Busy g) : g.Settled where
  opened e he := by
    obtain ⟨c, hc, hce, hcp⟩ := hb.generations
    obtain ⟨_, _, _, _, _, rfl⟩ := hb.rest
    obtain ⟨k, hk, hke, hrank⟩ := h.opened e he
    exact ⟨c k, hc ▸ List.mem_map_of_mem hk, (hce k).trans hke,
      Nat.le_trans hrank (hcp k hk).loop⟩
  turn := by
    obtain ⟨_, _, _, _, _, rfl⟩ := hb.rest
    exact h.turn

/-- Operations keep a feed alive that they keep going. -/
lemma Alive.later (h : f.Alive) (hl : f.Later g) (hg : g.Going) : g.Alive :=
  { h.toSettled.later hl with going := hg }

/-- Work of read loops keeps a feed alive. -/
lemma Alive.busy (h : f.Alive) (hb : f.Busy g) : g.Alive :=
  { h.toSettled.busy hb with going := h.going.busy hb }

section Silent

variable (hr : Restrained may respond)
variable (hmay : ∀ status operation, ¬ may (.status status) operation)

include hr hmay

/-! ### Operations -/

/-- A generation that begins has a guardian that is awake. -/
lemma going_generate (ht : Told respond .initializing f g) (hf : f.WellFormed may)
    (retries : UInt32) : (g.generate retries).Going := by
  have hgoes := ht.goes hr hmay hf
  have hclaim : g.claim < g.epoch + 1 := by
    rw [hgoes.claim, hgoes.epoch]
    exact Nat.lt_succ_of_le hf.claim
  unfold generate Going
  rw [abortSlot_eq]
  dsimp only
  rw [hgoes.status]
  exact ⟨hclaim, _, List.mem_append_right _ (List.mem_singleton_self _), rfl, by simp⟩

/-- A start leaves a feed going, whether it is accepted or not. -/
lemma Started.going {retries : UInt32} (hs : Started respond retries f g) (hf : f.WellFormed may)
    (h : f.Going) : g.Going := by
  cases hs with
  | refused => exact h
  | overtaken _ ht hk => exact absurd (ht.goes hr hmay hf).status hk
  | begun _ ht _ => exact going_generate hr hmay ht hf retries

/-- At the end of a reconnect delay a feed that is reconnecting goes on. -/
lemma going_restart (hf : f.WellFormed may) (hs : f.status = .reconnecting) (retries : UInt32) :
    (restart respond retries f).Going := by
  unfold restart
  rcases startWhere_cases respond (fun f => f.status = .reconnecting) retries f with
    ⟨hno, -⟩ | ⟨-, -, k, ht, ⟨hk, -⟩ | ⟨-, he⟩⟩
  · simp [hs] at hno
  · exact absurd (ht.goes hr hmay hf).status hk
  · rw [he]
    exact going_generate hr hmay ht hf retries

/-- A stop halts the feed. -/
lemma going_stop (hf : f.WellFormed may) : (f.stop respond).Going := by
  have hs := ((entered_setStatus respond .stopUpdates f).goes hr hmay hf).status
  apply going_of_halted
  unfold stop
  rw [haltTasks_eq, abortPending_eq]
  dsimp only
  rw [hs]
  rfl

/-- A reconnect that begins falls asleep, or the feed is halted. -/
lemma going_beginReconnect (hf : f.WellFormed may) {n : Nat} {r r' : Reconnect}
    (hn : f.reconnects[n]? = some r') (ha : r'.aborted = false) :
    (f.beginReconnect respond n r).Going := by
  rcases beginReconnect_cases respond n r f with ⟨-, hh, he⟩ | ⟨-, k, ht, he⟩
  · rw [he]
    apply going_of_halted
    rw [haltTasks_eq]
    exact hh
  · have hgoes := ht.goes hr hmay hf.haltTasks
    have hslot : k.slot = none := by rw [hgoes.slot, haltTasks_eq]
    have hrec : k.reconnects[n]? = some r' := by
      rw [hgoes.reconnects, haltTasks_eq]
      exact hn
    have hk := hgoes.status
    obtain ⟨deadline, hd⟩ : ∃ t, k.after (r.delay.getD (k.backoff.delayFor r.retries)) = t :=
      ⟨_, rfl⟩
    rw [he, sleepReconnect_eq, hd]
    unfold Going setReconnect log note
    dsimp only
    rw [hk]
    refine ⟨hslot, n, { r' with phase := .asleep deadline k.epoch }, deadline, ?_, rfl, ha⟩
    simp [hrec]

/-- The end of a disconnect leaves the feed halted. -/
lemma going_endDisconnect (hf : f.WellFormed may) (n : Nat) :
    (f.endDisconnect respond n).Going := by
  obtain ⟨k, ht, he⟩ := endDisconnect_cases respond n f
  have hi : { f with installed := none }.WellFormed may := hf.uninstall
  have hs := (ht.goes hr hmay hi).status
  rw [he]
  apply going_of_halted
  unfold setDisconnect
  dsimp only
  rw [hs]
  rfl

/-- A disconnect that begins halts the feed. -/
lemma going_beginDisconnect (hf : f.WellFormed may) (n : Nat) :
    (f.beginDisconnect respond n).Going := by
  obtain ⟨k, ht, hk⟩ := beginDisconnect_cases respond n f
  have hs := (ht.goes hr hmay hf).status
  have hkf := (ht.upkeep hr.and.1 hf).1
  rcases hk with ⟨hslot, he⟩ | ⟨e, -, he⟩
  · rw [he]
    exact going_endDisconnect hr hmay (hkf.abortPending_passEpoch hslot) n
  · rw [he]
    apply going_of_halted
    rw [abortPending_eq]
    show k.status.isHalted = true
    rw [hs]
    rfl

end Silent

/-- On top of the bookkeeping, operations keep a feed alive where subscribers to the status refrain
from them. -/
theorem conducted_alive (hmay : ∀ status operation, ¬ may (.status status) operation) :
    Conducted may (WellFormed may) fun notice f g =>
      (f.Later g ∧ Quiet may notice f g) ∧ (f.Alive → g.Alive) := by
  have hC := conducted_quiet may
  refine hC.and ?_ ?_ ?_ ?_ ?_
  · exact
      { keeps := fun h => h.keeps
        refl := fun _ _ h => h
        trans := fun hf hg h => hg (hf h)
        aside := fun he hk hf =>
          ⟨hf.of_engine he hk, fun h => h.later (later_of_engine he) (h.going.of_engine he)⟩ }
  · intro respond hr _ notice hm retries f hf h
    obtain ⟨-, hl, -⟩ := hC.start hr hm retries f hf
    exact h.later hl ((started_start respond retries f).going hr hmay hf h.going)
  · intro respond hr _ notice hm f hf h
    obtain ⟨-, hl, -⟩ := hC.stop hr hm f hf
    exact h.later hl (going_stop hr hmay hf)
  · intro respond hr _ notice hm delay retries f hf h
    obtain ⟨-, hl, -⟩ := hC.reconnect hr hm delay retries f hf
    have hadd : (f.addReconnect delay retries).2.WellFormed may := hf.appendReconnect hf.claim rfl
    have hnew : (f.addReconnect delay retries).2.reconnects[f.reconnects.length]? =
        some { scheduled := false, delay, retries } := by simp [addReconnect]
    exact h.later hl (going_beginReconnect hr hmay hadd hnew rfl)
  · intro respond hr _ notice hm f hf h
    obtain ⟨-, hl, -⟩ := hC.disconnect hr hm f hf
    exact h.later hl (going_beginDisconnect hr hmay hf.addDisconnect _)

end EventFeed.Feed
