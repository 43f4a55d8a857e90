import EventFeed.Proofs.Feed.Parts
import EventFeed.Proofs.Feed.Turns

/-!
# What is asked of reconnects

Whether a reconnect is scheduled by the feed, after which delay it goes on, and which number it
carries, is settled when it is asked for. Afterwards it goes through its phases and may be aborted,
and nothing else changes about it. Callers and subscribers ask for reconnects that are not
scheduled; the only place where the feed schedules one is the report of a lost connection.
-/

namespace EventFeed

/-- A reconnect as it was asked for. -/
def Reconnect.asked (r : Reconnect) : Reconnect :=
  { r with phase := .waiting, aborted := false }

namespace Feed

variable {may : Conduct} {respond : Respond} {f f' g : Feed}

/-- All reconnects as they were asked for, the first one first. -/
def orders (f : Feed) : List Reconnect :=
  f.reconnects.map Reconnect.asked

/-- From `f` to `g` reconnects have been asked for, and none has been scheduled. -/
structure Asks (f g : Feed) : Prop where
  asked : ∃ more, g.orders = f.orders ++ more ∧ ∀ r ∈ more, r.scheduled = false
  claim : g.claim = f.claim

/-- No reconnect has been asked for. -/
lemma Asks.of_eq (h : (g.orders, g.claim) = (f.orders, f.claim)) : f.Asks g := by
  simp only [Prod.mk.injEq] at h
  exact ⟨⟨[], by rw [h.1, List.append_nil], by simp⟩, h.2⟩

lemma Asks.refl (f : Feed) : f.Asks f :=
  .of_eq rfl

lemma Asks.trans {h : Feed} (hf : f.Asks g) (hg : g.Asks h) : f.Asks h := by
  obtain ⟨more, he, hno⟩ := hf.asked
  obtain ⟨more', he', hno'⟩ := hg.asked
  refine ⟨⟨more ++ more', by rw [he', he, List.append_assoc], fun r hr => ?_⟩,
    hg.claim.trans hf.claim⟩
  rcases List.mem_append.1 hr with hr | hr
  · exact hno r hr
  · exact hno' r hr

/-- What happens to subscribers alone has nothing to do with reconnects. -/
lemma asks_of_engine (he : g.engine = f.engine) : f.Asks g :=
  .of_eq (eq_of_engine he (fun k => (k.orders, k.claim)) fun _ => rfl)

/-- Work of read loops has nothing to do with reconnects. -/
lemma Busy.asks (hb : f.Busy g) : f.Asks g := by
  obtain ⟨_, _, _, _, _, rfl⟩ := hb.rest
  exact .of_eq rfl

/-- A reconnect that goes on, or that is aborted, was asked for as before. -/
lemma map_asked_modify {c : Reconnect → Reconnect} (hc : ∀ r, (c r).asked = r.asked)
    (reconnects : List Reconnect) (n : Nat) :
    (reconnects.modify n c).map Reconnect.asked = reconnects.map Reconnect.asked := by
  refine List.ext_getElem? fun m => ?_
  rw [List.getElem?_map, List.getElem?_map, List.getElem?_modify]
  cases reconnects[m]? with
  | none => rfl
  | some r => by_cases h : n = m <;> simp [h, hc]

/-- A reconnect that goes on was asked for as before. -/
lemma asks_setReconnect (n : Nat) (phase : ReconnectPhase) (f : Feed) :
    f.Asks (f.setReconnect n phase) :=
  .of_eq (congrArg (·, f.claim)
    (map_asked_modify (c := fun r => { r with phase }) (fun _ => rfl) f.reconnects n))

/-- Halting has nothing to do with reconnects. -/
lemma asks_haltTasks (f : Feed) : f.Asks f.haltTasks := by
  rw [haltTasks_eq]
  exact .of_eq rfl

/-- A reconnect that is aborted was asked for as before. -/
lemma asks_abortPending (f : Feed) : f.Asks f.abortPending := by
  unfold abortPending
  split
  · exact .refl f
  · next n _ =>
    exact .of_eq (congrArg (·, f.claim)
      (map_asked_modify (c := fun r => { r with aborted := true }) (fun _ => rfl) f.reconnects n))

/-- A generation that begins has nothing to do with reconnects. -/
lemma asks_generate (retries : UInt32) (f : Feed) : f.Asks (f.generate retries) := by
  unfold generate
  rw [abortSlot_eq]
  exact .of_eq rfl

/-- A caller or a subscriber asks for a reconnect that is not scheduled. -/
lemma asks_addReconnect (delay : Option Duration) (retries : UInt32) (f : Feed) :
    f.Asks (f.addReconnect delay retries).2 :=
  ⟨⟨[{ scheduled := false, delay, retries }], by simp [orders, addReconnect, Reconnect.asked],
    by simp⟩, rfl⟩

/-- No part of an operation schedules a reconnect. -/
lemma partwise_asks : Partwise Asks where
  trans := Asks.trans
  aside := asks_of_engine
  announce _ _ := .of_eq rfl
  noteStatus _ _ := .of_eq rfl
  noteEvent _ _ := .of_eq rfl
  haltTasks := asks_haltTasks
  abortPending := asks_abortPending
  generate := asks_generate
  addReconnect := asks_addReconnect
  setReconnect := asks_setReconnect
  addDisconnect _ := .of_eq rfl
  setDisconnect _ _ _ := .of_eq rfl
  uninstall _ := .of_eq rfl
  passEpoch _ := .of_eq rfl
  letGo _ _ := .of_eq rfl

/-! ### Tasks -/

/-- A read loop that does not fail schedules no reconnect. -/
lemma LoopTurn.asks {k : Generation} {wake : Wake} (hs : LoopTurn respond k f wake f')
    (hr : Respects (WellFormed may) (fun _ => Asks) respond)
    (hf : k.loop ≠ .waiting → f.WellFormed may) (hno : k.failure? f.settings wake = none) :
    f.Asks f' := by
  cases hs with
  | failed h => exact absurd (hno.symm.trans h) (by simp)
  | @opened _ h socket =>
    obtain ⟨j, hb, -, hj⟩ := loopConnected_cases respond k.epoch socket f
    have hjf := (hf (by simp [h])).busy hb
    rcases hj with ⟨-, he⟩ | ⟨-, -, he⟩ | ⟨-, -, -, i, ht, he⟩
    · rw [he]
      exact hb.asks.trans (.of_eq rfl)
    · rw [he]
      exact hb.asks.trans (.of_eq rfl)
    · have hi : (j.install k.epoch).WellFormed may := hjf.install _
      have hinst : j.Asks (j.install k.epoch) := .of_eq rfl
      rw [he]
      exact ((hb.asks.trans hinst).trans (partwise_asks.told hr ht hi)).trans (.of_eq rfl)
  | @received socket _ _ h frame hframe =>
    obtain ⟨j, hb, -, he | ⟨event, he⟩⟩ := loopFrame_hears respond k.epoch socket hframe f
    · rw [he]
      exact hb.asks.trans (.of_eq rfl)
    · have hjf := (hf (by simp [h])).busy hb
      rw [he]
      exact (hb.asks.trans (partwise_asks.publishEvent hr event hjf)).trans (.of_eq rfl)
  | began => exact .of_eq rfl
  | left => exact .of_eq rfl
  | closing => exact .of_eq rfl
  | closed => exact .of_eq rfl
  | panicked => exact .of_eq rfl

end Feed

end EventFeed
