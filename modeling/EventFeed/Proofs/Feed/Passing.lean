import EventFeed.Proofs.Feed.Runs

/-!
# Epochs pass

An operation that is not refused ends the epoch, whatever subscribers do while they are told of it,
and no step takes an epoch back. So a task that remembers an epoch can tell whether an operation has
come in between, and a reconnect that finds another epoch than the one it fell asleep in will never
find its own again.
-/

namespace EventFeed.Feed

variable {may : Conduct} {respond : Respond} {f f' g : Feed}

/-! ### Operations end the epoch -/

/-- The epoch has passed, or nothing has happened to the engine. -/
def Passes (f g : Feed) : Prop :=
  f.epoch < g.epoch ∨ g.engine = f.engine

lemma Passes.trans {h : Feed} (hf : Passes f g) (hg : Passes g h) : Passes f h := by
  rcases hf with hf | hf
  · rcases hg with hg | hg
    · exact .inl (Nat.lt_trans hf hg)
    · have hsame := eq_of_engine hg Feed.epoch fun _ => rfl
      exact .inl (hsame ▸ hf)
  · rcases hg with hg | hg
    · have hsame := eq_of_engine hf Feed.epoch fun _ => rfl
      exact .inl (hsame ▸ hg)
    · exact .inr (hg.trans hf)

/-- What happens to subscribers alone leaves the engine as it is. -/
lemma framed_passes (may : Conduct) : Framed may (WellFormed may) fun _ => Passes where
  keeps h := h.keeps
  refl _ _ := .inr rfl
  trans := Passes.trans
  aside he hk hf := ⟨hf.of_engine he hk, .inr he⟩

section Passes

variable (hr : Respects (WellFormed may) (fun _ => Passes) respond)

include hr

/-- After an announcement the epoch has passed, or the feed is as it was announced. -/
lemma Told.passes {s : ConnectionState} (ht : Told respond s f g) (hf : f.WellFormed may) :
    Passes (f.announce s) g :=
  ((framed_passes may).told hr ht (hf.announce s)).2

/-- A start that is not refused ends the epoch. -/
lemma lt_epoch_startWhere (allowed : Feed → Bool) (retries : UInt32) (hf : f.WellFormed may)
    (hs : f.status ≠ .initializing) (ha : allowed f = true) :
    f.epoch < (startWhere respond allowed retries f).2.epoch := by
  rcases startWhere_cases respond allowed retries f with
    ⟨h, -⟩ | ⟨-, -, k, ht, ⟨hk, he⟩ | ⟨-, he⟩⟩
  · simp [hs, ha] at h
  · -- Subscribers have moved the feed on, and not without ending the epoch.
    have hlt := (ht.passes hr hf).resolve_right fun heng =>
      hk (eq_of_engine heng Feed.status fun _ => rfl)
    rw [he]
    exact hlt
  · have hle : f.epoch ≤ k.epoch := by
      rcases ht.passes hr hf with hlt | heng
      · exact Nat.le_of_lt hlt
      · exact Nat.le_of_eq (eq_of_engine heng Feed.epoch fun _ => rfl).symm
    rw [he]
    exact Nat.lt_succ_of_le hle

/-- A start is refused and does nothing, or it ends the epoch. -/
lemma passes_start (retries : UInt32) (hf : f.WellFormed may) :
    Passes f (f.start respond retries) := by
  by_cases h : f.status = .initializing ∨ f.status = .connected
  · refine .inr (congrArg engine ?_)
    unfold start
    rcases startWhere_cases respond (fun f => f.status ≠ .connected) retries f with
      ⟨-, he⟩ | ⟨hs, ha, -⟩
    · rw [he]
    · exact absurd h (by simpa [hs] using ha)
  · obtain ⟨hs, hc⟩ := not_or.1 h
    exact .inl (lt_epoch_startWhere hr _ retries hf hs (by simpa using hc))

end Passes

section Orderly

variable (hr : Orderly may respond)

include hr

/-- A stop ends the epoch. -/
lemma lt_epoch_stop (hf : f.WellFormed may) : f.epoch < (f.stop respond).epoch := by
  obtain ⟨-, hl⟩ := (entered_setStatus respond .stopUpdates f).upkeep hr hf
  have hlater := hl.trans (later_abortPending _)
  unfold stop
  rw [haltTasks_eq]
  exact Nat.lt_succ_of_le hlater.epoch

/-- The first part of a reconnect ends the epoch. -/
lemma lt_epoch_beginReconnect (n : Nat) (r : Reconnect) (hf : f.WellFormed may) :
    f.epoch < (f.beginReconnect respond n r).epoch := by
  have hhalt : f.epoch < f.haltTasks.epoch := by rw [haltTasks_eq]; exact Nat.lt_succ_self _
  rcases beginReconnect_cases respond n r f with ⟨-, -, he⟩ | ⟨-, k, ht, he⟩
  · rw [he]
    exact hhalt
  · obtain ⟨-, hl⟩ := ht.upkeep hr hf.haltTasks
    rw [he]
    exact Nat.lt_of_lt_of_le hhalt hl.epoch

/-- The first part of a disconnect ends the epoch. -/
lemma lt_epoch_beginDisconnect (n : Nat) (hf : f.WellFormed may) :
    f.epoch < (f.beginDisconnect respond n).epoch := by
  obtain ⟨k, ht, he⟩ := beginDisconnect_cases respond n f
  obtain ⟨hk, hl⟩ := ht.upkeep hr hf
  rcases he with ⟨hs, he⟩ | ⟨e, -, he⟩
  · obtain ⟨j, hj, -, hlj⟩ := endDisconnect_eq hr n (hk.abortPending_passEpoch hs)
    rw [he, hj]
    exact Nat.lt_of_lt_of_le (Nat.lt_succ_of_le hl.epoch) hlj.epoch
  · rw [he]
    exact Nat.lt_succ_of_le hl.epoch

end Orderly

/-- On top of the bookkeeping, an operation does nothing or it ends the epoch. -/
theorem conducted_passes (may : Conduct) :
    Conducted may (WellFormed may) fun _ f g => f.Later g ∧ Passes f g := by
  refine (conducted_upkeep may).and (framed_passes may) ?_ ?_ ?_ ?_
  · intro _ _ hr _ _ retries f hf
    exact passes_start hr retries hf
  · intro _ hr _ _ _ f hf
    exact .inl (lt_epoch_stop hr hf)
  · intro _ hr _ _ _ delay retries f hf
    have hadd : (f.addReconnect delay retries).2.WellFormed may := hf.appendReconnect hf.claim rfl
    exact .inl (lt_epoch_beginReconnect hr _ _ hadd)
  · intro _ hr _ _ _ f hf
    exact .inl (lt_epoch_beginDisconnect hr _ hf.addDisconnect)

/-- The feed does not refuse an operation, which it may do with a start. -/
def Accepts (f : Feed) (operation : Operation) : Prop :=
  operation = .start → f.status ≠ .initializing ∧ f.status ≠ .connected

/-- A step in which an operation is performed and not refused ends the epoch. -/
theorem Stepped.lt_epoch {depth : Nat} {event : Event} {operation : Operation}
    (hs : Stepped (Feed.respond depth) f event f') (hf : f.WellFormed may)
    (ho : f.operation? event = some operation) (ha : f.Accepts operation) :
    f.epoch < f'.epoch := by
  have hr := ((conducted_passes may).respond depth).and
  cases hs with
  | called call =>
    cases call with
    | start retries =>
      obtain ⟨hi, hc⟩ := ha (Option.some.inj ho).symm
      exact lt_epoch_startWhere hr.2 (fun f => f.status ≠ .connected) retries hf.noTurn hi
        (by simpa using hc)
    | stop => exact lt_epoch_stop hr.1 hf.noTurn
    | _ => exact absurd ho (by simp [operation?])
  | reconnectBegan => exact lt_epoch_beginReconnect hr.1 _ _ (hf.turn _ (by simp))
  | disconnectBegan => exact lt_epoch_beginDisconnect hr.1 _ (hf.turn _ (by simp))
  | _ => exact absurd ho (by simp [operation?])

/-! ### Epochs do not come back -/

/-- No run takes an epoch back. -/
theorem Reaches.onward {depth : Nat} {allowed : Feed → Event → Prop}
    (hr : Reaches depth allowed f f') (hf : f.WellFormed may)
    (hk : ∀ g event, allowed g event → event.Keeps may) : f'.WellFormed may ∧ Onward f f' := by
  refine hr.invariant (Onward f) hf (.refl f) hk fun g event h hg _ hi hs => ?_
  exact hi.trans ((stepped_of_step? hg hs).onward (orderly_respond may depth) hg)

end EventFeed.Feed
