import EventFeed.Proofs.Feed.Upkeep

/-!
# Relations that hold part by part

Operations are put together from few parts. A status is announced, tasks are halted, a generation
begins or is let go, reconnects and disconnects are asked for and go on. In between subscribers
answer, and they may perform operations in turn. A relation between states that every part respects
by itself is respected by whole operations, whatever is answered to them, and therefore by answers
at every depth.

`Partwise` lists the parts. Subscribers count for nothing here, so all that happens to them alone
respects the relation as well.
-/

namespace EventFeed.Feed

variable {may : Conduct} {respond : Respond} {Rel : Feed → Feed → Prop} {f g : Feed}

/-- A relation between states that can be followed from one to the next, and that each of the parts
respects from which operations are put together. -/
structure Partwise (Rel : Feed → Feed → Prop) : Prop where
  trans : ∀ {f g h}, Rel f g → Rel g h → Rel f h
  /-- What happens to subscribers alone is of no account. -/
  aside : ∀ {f g}, g.engine = f.engine → Rel f g
  announce : ∀ s (f : Feed), Rel f (f.announce s)
  noteStatus : ∀ s (f : Feed), Rel f (f.note (.statusPublished s))
  noteEvent : ∀ event (f : Feed), Rel f (f.note (.eventPublished event))
  haltTasks : ∀ f : Feed, Rel f f.haltTasks
  abortPending : ∀ f : Feed, Rel f f.abortPending
  generate : ∀ retries (f : Feed), Rel f (f.generate retries)
  addReconnect : ∀ delay retries (f : Feed), Rel f (f.addReconnect delay retries).2
  setReconnect : ∀ n phase (f : Feed), Rel f (f.setReconnect n phase)
  addDisconnect : ∀ f : Feed, Rel f f.addDisconnect.2
  setDisconnect : ∀ n phase (f : Feed), Rel f (f.setDisconnect n phase)
  uninstall : ∀ f : Feed, Rel f { f with installed := none }
  passEpoch : ∀ f : Feed, Rel f { f with slot := none, epoch := f.epoch + 1 }
  letGo : ∀ epoch (f : Feed), Rel f (f.letGo epoch)

namespace Partwise

variable (hP : Partwise Rel)

include hP

lemma refl (f : Feed) : Rel f f :=
  hP.aside rfl

/-- So it can be relied on whatever subscribers register or forget. -/
lemma framed (may : Conduct) : Framed may (WellFormed may) fun _ => Rel where
  keeps h := h.keeps
  refl _ := hP.refl
  trans := hP.trans
  aside he hk hf := ⟨hf.of_engine he hk, hP.aside he⟩

section Respects

variable (hr : Respects (WellFormed may) (fun _ => Rel) respond)

include hr

/-! ### Operations -/

/-- An announcement and all answers to it respect the relation. -/
lemma told {s : ConnectionState} (ht : Told respond s f g) (hf : f.WellFormed may) : Rel f g :=
  hP.trans (hP.announce s f) ((hP.framed may).told hr ht (hf.announce s)).2

/-- Going on to a status respects it. -/
lemma entered {s : ConnectionState} (ht : Entered respond s f g) (hf : f.WellFormed may) :
    Rel f g := by
  rcases ht with ⟨-, rfl⟩ | ⟨-, ht⟩
  · exact hP.refl g
  · exact hP.told hr ht hf

/-- A start respects it, whoever asks for it. -/
lemma started {retries : UInt32} (hs : Started respond retries f g) (hf : f.WellFormed may) :
    Rel f g := by
  cases hs with
  | refused => exact hP.refl f
  | overtaken _ ht _ => exact hP.told hr ht hf
  | begun _ ht _ => exact hP.trans (hP.told hr ht hf) (hP.generate retries _)

/-- A stop respects it. -/
lemma stop (hf : f.WellFormed may) : Rel f (f.stop respond) := by
  have hsaid := hP.entered hr (entered_setStatus respond .stopUpdates f) hf
  exact hP.trans (hP.trans hsaid (hP.abortPending _)) (hP.haltTasks _)

/-- The first part of a reconnect respects it. -/
lemma beginReconnect (n : Nat) (r : Reconnect) (hf : f.WellFormed may) :
    Rel f (f.beginReconnect respond n r) := by
  have hhalt := hP.haltTasks f
  rcases beginReconnect_cases respond n r f with ⟨-, -, he⟩ | ⟨-, k, ht, he⟩
  · rw [he]
    exact hP.trans hhalt (hP.setReconnect _ _ _)
  · have hsaid := hP.trans hhalt (hP.entered hr ht hf.haltTasks)
    rw [he, sleepReconnect_eq]
    exact hP.trans (hP.trans hsaid (hP.aside (engine_log k _ _ _))) (hP.setReconnect _ _ _)

/-- The second part of a reconnect respects it. -/
lemma endReconnect (n epoch : Nat) (r : Reconnect) (hf : f.WellFormed may) :
    Rel f (f.endReconnect respond n epoch r) := by
  have hend := hP.setReconnect n .finished f
  have hn : (f.setReconnect n .finished).WellFormed may := hf.setReconnect (by simp) n
  rcases endReconnect_cases respond n epoch r f with ⟨-, he⟩ | ⟨-, -, he⟩
  · rw [he]
    exact hend
  · rw [he]
    exact hP.trans hend (hP.started hr (started_restart respond _ _) hn)

/-- The last part of a disconnect respects it. -/
lemma endDisconnect (n : Nat) (hf : f.WellFormed may) : Rel f (f.endDisconnect respond n) := by
  obtain ⟨k, ht, he⟩ := endDisconnect_cases respond n f
  have hsaid := hP.trans (hP.uninstall f) (hP.entered hr ht hf.uninstall)
  rw [he]
  exact hP.trans hsaid (hP.setDisconnect n .finished k)

/-- The first part of a disconnect respects it. The bookkeeping is needed to go on after the
answers to the announcement, if there is no read loop to wait for. -/
lemma beginDisconnect (ho : Orderly may respond) (n : Nat) (hf : f.WellFormed may) :
    Rel f (f.beginDisconnect respond n) := by
  obtain ⟨k, ht, he⟩ := beginDisconnect_cases respond n f
  have hepoch : k.abortPending.epoch = k.epoch := by rw [abortPending_eq]
  have haborted := hP.trans (hP.entered hr ht hf) (hP.abortPending k)
  have hpassed := hP.trans haborted (hP.passEpoch k.abortPending)
  rw [hepoch] at hpassed
  rcases he with ⟨hs, he⟩ | ⟨e, -, he⟩
  · have hk := (ht.upkeep ho hf).1.abortPending_passEpoch hs
    rw [he]
    exact hP.trans hpassed (hP.endDisconnect hr n hk)
  · rw [he]
    exact hP.trans (hP.trans hpassed (hP.letGo e _)) (hP.setDisconnect n _ _)

end Respects

/-- On top of the bookkeeping, operations respect a relation that holds part by part. -/
theorem conducted (may : Conduct) :
    Conducted may (WellFormed may) fun _ f g => f.Later g ∧ Rel f g := by
  refine (conducted_upkeep may).and (hP.framed may) ?_ ?_ ?_ ?_
  · intro _ _ hr _ _ retries f hf
    exact hP.started hr (started_start _ retries f) hf
  · intro _ _ hr _ _ f hf
    exact hP.stop hr hf
  · intro _ _ hr _ _ delay retries f hf
    have hadd : (f.addReconnect delay retries).2.WellFormed may := hf.appendReconnect hf.claim rfl
    exact hP.trans (hP.addReconnect delay retries f) (hP.beginReconnect hr _ _ hadd)
  · intro _ ho hr _ _ f hf
    exact hP.trans (hP.addDisconnect f) (hP.beginDisconnect hr ho _ hf.addDisconnect)

/-- So do answers at every depth. -/
lemma answers (may : Conduct) (depth : Nat) :
    Respects (WellFormed may) (fun _ => Rel) (Feed.respond depth) :=
  ((hP.conducted may).respond depth).and.2

/-! ### Calls -/

section Respects

variable (hr : Respects (WellFormed may) (fun _ => Rel) respond)

include hr

/-- The publication of an event respects the relation. -/
lemma publishEvent (event : RoutedEvent) (hf : f.WellFormed may) :
    Rel f (publishEvent respond event f).2 := by
  have hn : (f.note (.eventPublished event)).WellFormed may := hf.note _
  exact hP.trans (hP.noteEvent event f) ((hP.framed may).publishEvent hr hn).2

/-- A call of the caller respects it. -/
lemma doCall (call : Call) (hf : f.WellFormed may) : Rel f (f.doCall respond call) := by
  cases call with
  | start retries => exact hP.started hr (started_start respond retries f) hf
  | stop => exact hP.stop hr hf
  | reconnect delay retries => exact hP.addReconnect delay retries f
  | disconnect => exact hP.addDisconnect f
  | subscribe target name handler => exact hP.aside (engine_subscribe f target name handler)
  | unsubscribe handle => exact hP.aside (engine_unsubscribe f handle)
  | publishStatus status =>
    have hn : (f.note (.statusPublished status)).WellFormed may := hf.note _
    exact hP.trans (hP.noteStatus status f) ((hP.framed may).publishStatus hr hn).2
  | publishEvent event => exact hP.publishEvent hr event hf
  | release => exact hP.trans (hP.abortPending f) (hP.haltTasks _)

end Respects

end Partwise

end EventFeed.Feed
