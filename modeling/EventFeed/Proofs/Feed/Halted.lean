import EventFeed.Proofs.Feed.Restraint

/-!
# Halted states are final for background work

In a halted feed there may still be a read loop that is being closed, a guardian, a scheduled
reconnect that has not run or that sleeps, and a reconnect of the caller that sleeps. None of them
moves the status: a read loop and a guardian report a loss only while their epoch is live, a
scheduled reconnect is dropped, and a reconnect that wakes up starts again only from the status that
it left behind. What remains is an event that a read loop publishes, and what subscribers ask for
when they are told of it.
-/

namespace EventFeed.Feed

variable {may : Conduct} {respond : Respond} {f f' g : Feed}

/-! ### Background work in a halted feed -/

/-- The status is as it was, and nothing has been published about it. -/
structure Still (f g : Feed) : Prop where
  status : g.status = f.status
  changes : g.changes = f.changes
  published : g.published = f.published

lemma Still.trans {h : Feed} (hg : Still f g) (hh : Still g h) : Still f h :=
  ⟨hh.status.trans hg.status, hh.changes.trans hg.changes, hh.published.trans hg.published⟩

/-- Work of read loops has nothing to do with the status. -/
lemma Busy.still (hb : f.Busy g) : Still f g := by
  obtain ⟨_, _, _, _, _, rfl⟩ := hb.rest
  exact ⟨rfl, hb.changes, hb.published⟩

/-- What happens to subscribers alone has nothing to do with the status. -/
lemma still_of_engine (he : g.engine = f.engine) : Still f g where
  status := eq_of_engine he Feed.status fun _ => rfl
  changes := eq_of_engine he Feed.changes fun k => changes_engine k
  published := eq_of_engine he Feed.published fun k => published_engine k

/-- In a halted feed no loss is reported. -/
lemma connectionLost_of_halted (hh : f.status.isHalted = true) (epoch : Nat) (retries : UInt32) :
    f.connectionLost respond epoch retries = f := by
  rcases connectionLost_cases respond epoch retries f with ⟨-, he⟩ | ⟨-, hl, -⟩
  · exact he
  · simp [isLive, hh] at hl

/-- A halted feed is not waiting to start again. -/
lemma ne_reconnecting_of_halted (hh : f.status.isHalted = true) : f.status ≠ .reconnecting := by
  intro hs
  rw [hs] at hh
  exact absurd hh (by decide)

/-- The read loop of an epoch publishes an event, after what is its own business. What comes then is
in the hands of subscribers, until the read loop waits again. -/
def PublishedBy (respond : Respond) (epoch : Nat) (f f' : Feed) : Prop :=
  ∃ k event socket, f.Busy k ∧
    f' = (publishEvent respond event k).2.awaitFrame epoch socket

/-- A step of a read loop in a halted feed changes no status and publishes none, but it may publish
an event. -/
lemma LoopRun.still {k : Generation} (hs : LoopRun respond k f f')
    (hh : f.status.isHalted = true) :
    Still f f' ∨ (k.loop ≠ .waiting ∧ PublishedBy respond k.epoch f f') := by
  cases hs with
  | began => exact .inl ⟨rfl, rfl, rfl⟩
  | ended => exact .inl (busy_finish _).still
  | worked _ _ hb => exact .inl hb.still
  | opened _ socket =>
    obtain ⟨j, hb, -, hj⟩ := loopConnected_cases respond k.epoch socket f
    have hjs : j.status = f.status := hb.still.status
    rcases hj with ⟨-, he⟩ | ⟨-, -, he⟩ | ⟨-, -, hn, -⟩
    · exact .inl (hb.still.trans (he ▸ ⟨rfl, rfl, rfl⟩))
    · exact .inl (hb.still.trans (he ▸ ⟨rfl, rfl, rfl⟩))
    · rw [hjs, hh] at hn
      exact absurd hn (by simp)
  | failed _ _ error =>
    obtain ⟨j, hb, -, he⟩ := failLoop_eq respond k.epoch error f
    rw [connectionLost_of_halted (by rw [hb.still.status, hh])] at he
    exact .inl (he ▸ hb.still)
  | published h hb _ event => exact .inr ⟨by simp [h], _, event, _, hb, rfl⟩

/-- A step of a guardian in a halted feed changes no status and publishes none. -/
lemma WatchRun.still {epoch : Nat} (hs : WatchRun respond epoch f f')
    (hh : f.status.isHalted = true) : Still f f' := by
  cases hs with
  | ended => exact ⟨rfl, rfl, rfl⟩
  | slept => exact ⟨rfl, rfl, rfl⟩
  | reported =>
    have hw : (f.setWatch epoch .finished).status.isHalted = true := hh
    rw [connectionLost_of_halted hw]
    exact ⟨rfl, rfl, rfl⟩

/-- A scheduled reconnect is dropped in a halted feed. -/
lemma still_beginReconnect {n : Nat} {r : Reconnect} (hr : r.scheduled = true)
    (hh : f.status.isHalted = true) : Still f (f.beginReconnect respond n r) := by
  rcases beginReconnect_cases respond n r f with ⟨-, -, he⟩ | ⟨hn, -⟩
  · rw [he, haltTasks_eq]
    exact ⟨rfl, rfl, rfl⟩
  · rw [hh] at hn
    exact absurd (hn hr) (by simp)

/-- A reconnect that wakes up in a halted feed starts nothing. -/
lemma still_endReconnect (hh : f.status.isHalted = true) (n epoch : Nat) (r : Reconnect) :
    Still f (f.endReconnect respond n epoch r) := by
  rcases endReconnect_cases respond n epoch r f with ⟨-, he⟩ | ⟨-, hs, -⟩
  · rw [he]
    exact ⟨rfl, rfl, rfl⟩
  · exact absurd hs (ne_reconnecting_of_halted hh)

/-- Whose turn it is has nothing to do with the status. -/
lemma still_turn (f : Feed) (task : Task) : Still f { f with current := some task } :=
  ⟨rfl, rfl, rfl⟩

/-- A task of the background changes no status in a halted feed and publishes none, but a read loop
that has begun may publish an event. -/
lemma Stepped.still {task : Task} {wake : Wake} (hs : Stepped respond f (.run task wake) f')
    (hh : f.status.isHalted = true) (hd : ∀ n, task ≠ .disconnect n)
    (ho : f.operation? (.run task wake) = none) :
    Still f f' ∨ ∃ k ∈ f.generations, task = .loop k.epoch ∧ k.loop ≠ .waiting ∧
      PublishedBy respond k.epoch { f with current := some task } f' := by
  have hturn := still_turn f task
  have hh' : { f with current := some task }.status.isHalted = true := hh
  cases hs with
  | @looped k _ _ hk _ h =>
    rcases h.still hh' with h | ⟨hw, h⟩
    · exact .inl (hturn.trans h)
    · exact .inr ⟨k, hk, rfl, hw, h⟩
  | watched _ _ h => exact .inl (hturn.trans (h.still hh'))
  | @reconnectBegan n r hr _ _ =>
    have hsch : r.scheduled = true := by simpa [operation?, hr] using ho
    exact .inl (hturn.trans (still_beginReconnect hsch hh'))
  | reconnectEnded => exact .inl (hturn.trans (still_endReconnect hh' _ _ _))
  | disconnectBegan => exact absurd rfl (hd _)
  | disconnectJoined => exact absurd rfl (hd _)
  | disconnectAbandoned => exact absurd rfl (hd _)
  | refreshed hb => exact .inl (hturn.trans hb.still)

/-- If subscribers call for nothing when they are told of an event, then its publication changes no
status and publishes none. -/
lemma PublishedBy.still {epoch depth : Nat} (hp : PublishedBy (Feed.respond depth) epoch f f')
    (hf : f.WellFormed may) (hmay : ∀ event operation, ¬ may (.event event) operation) :
    Still f f' := by
  obtain ⟨k, event, socket, hb, rfl⟩ := hp
  have hk := hf.busy hb
  have hn : (k.note (.eventPublished event)).WellFormed may := hk.note _
  obtain ⟨-, -, hq⟩ :=
    (conducted_quiet may).toFramed.publishEvent ((conducted_quiet may).respond depth) hn
  have hnote : Still k (k.note (.eventPublished event)) := ⟨rfl, rfl, rfl⟩
  have hpub : Still k (publishEvent (Feed.respond depth) event k).2 :=
    hnote.trans (still_of_engine (hq (hmay event)))
  exact (hb.still.trans hpub).trans ⟨rfl, rfl, rfl⟩

end EventFeed.Feed
