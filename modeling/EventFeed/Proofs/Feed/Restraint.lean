import EventFeed.Proofs.Feed.Runs

/-!
# Subscribers that refrain

What subscribers may not do on a notice, they do not do however deep notices nest. Where they may do
nothing at all, the engine of the feed is the same afterwards. Where they may at most stop the feed,
it is the same, or else the feed has been stopped.
-/

namespace EventFeed.Feed

variable {may : Conduct} {respond : Respond} {f g : Feed}

/-! ### Subscribers that do nothing -/

/-- Where a conduct allows no operation, the engine stays as it is. -/
def Quiet (may : Conduct) (notice : Notice) (f g : Feed) : Prop :=
  (∀ operation, ¬ may notice operation) → g.engine = f.engine

/-- Answers keep the bookkeeping, and leave the engine as it is where nothing may be done. -/
abbrev Restrained (may : Conduct) (respond : Respond) : Prop :=
  Respects (WellFormed may) (fun notice f g => f.Later g ∧ Quiet may notice f g) respond

/-- On top of the bookkeeping, the engine stays as it is where nothing may be done. -/
theorem conducted_quiet (may : Conduct) :
    Conducted may (WellFormed may) fun notice f g => f.Later g ∧ Quiet may notice f g := by
  refine (conducted_upkeep may).and ?_ ?_ ?_ ?_ ?_
  · exact
      { keeps := fun h => h.keeps
        refl := fun _ _ _ => rfl
        trans := fun hf hg hm => (hg hm).trans (hf hm)
        aside := fun he hk hf => ⟨hf.of_engine he hk, fun _ => he⟩ }
  · intro _ _ _ _ hm _ _ _ hno
    exact absurd hm (hno _)
  · intro _ _ _ _ hm _ _ hno
    exact absurd hm (hno _)
  · intro _ _ _ _ hm _ _ _ _ hno
    exact absurd hm (hno _)
  · intro _ _ _ _ hm _ _ hno
    exact absurd hm (hno _)

/-- The feed has gone on to a status, and nothing else has happened to it. -/
structure Goes (s : ConnectionState) (f g : Feed) : Prop where
  status : g.status = s
  claim : g.claim = f.claim
  epoch : g.epoch = f.epoch
  slot : g.slot = f.slot
  generations : g.generations = f.generations
  reconnects : g.reconnects = f.reconnects

section Silent

variable (hr : Restrained may respond)
variable (hmay : ∀ status operation, ¬ may (.status status) operation)

include hr hmay

/-- Where subscribers to the status refrain from operations, an announcement is all that happens. -/
lemma Told.goes {s : ConnectionState} (ht : Told respond s f g) (hf : f.WellFormed may) :
    Goes s f g := by
  obtain ⟨-, -, hq⟩ := (conducted_quiet may).told hr ht (hf.announce s)
  have he := hq (hmay s)
  exact
    { status := eq_of_engine he Feed.status fun _ => rfl
      claim := eq_of_engine he Feed.claim fun _ => rfl
      epoch := eq_of_engine he Feed.epoch fun _ => rfl
      slot := eq_of_engine he Feed.slot fun _ => rfl
      generations := eq_of_engine he Feed.generations fun _ => rfl
      reconnects := eq_of_engine he Feed.reconnects fun _ => rfl }

/-- Going on to a status is all that happens. -/
lemma Entered.goes {s : ConnectionState} (ht : Entered respond s f g) (hf : f.WellFormed may) :
    Goes s f g := by
  rcases ht with ⟨hs, rfl⟩ | ⟨-, ht⟩
  · exact ⟨hs, rfl, rfl, rfl, rfl, rfl⟩
  · exact ht.goes hr hmay hf

end Silent

/-! ### Subscribers that stop the feed at most -/

/-- The feed has been stopped, and but for that nothing has happened that could be seen from the
connection or from a disconnect under way. -/
structure Stops (f g : Feed) : Prop where
  status : g.status = .stopUpdates
  slot : g.slot = none
  connects : g.connects = f.connects
  disconnects : g.disconnects = f.disconnects

/-- Nothing has happened to the engine, or the feed has been stopped. -/
def StopsAtMost (f g : Feed) : Prop :=
  g.engine = f.engine ∨ Stops f g

lemma StopsAtMost.trans {h : Feed} (hf : StopsAtMost f g) (hg : StopsAtMost g h) :
    StopsAtMost f h := by
  rcases hg with hg | hg
  · rcases hf with hf | hf
    · exact .inl (hg.trans hf)
    · refine .inr ⟨(eq_of_engine hg Feed.status fun _ => rfl).trans hf.status,
        (eq_of_engine hg Feed.slot fun _ => rfl).trans hf.slot, ?_,
        (eq_of_engine hg Feed.disconnects fun _ => rfl).trans hf.disconnects⟩
      exact (eq_of_engine hg Feed.connects fun k => connects_engine k).trans hf.connects
  · rcases hf with hf | hf
    · refine .inr ⟨hg.status, hg.slot, hg.connects.trans ?_,
        hg.disconnects.trans (eq_of_engine hf Feed.disconnects fun _ => rfl)⟩
      exact eq_of_engine hf Feed.connects fun k => connects_engine k
    · exact .inr ⟨hg.status, hg.slot, hg.connects.trans hf.connects,
        hg.disconnects.trans hf.disconnects⟩

/-- Where a conduct allows a stop at most, nothing happens to the engine or the feed is stopped. -/
def Yielding (may : Conduct) (notice : Notice) (f g : Feed) : Prop :=
  (∀ operation, may notice operation → operation = .stop) → StopsAtMost f g

/-- What happens to subscribers alone does not stop the feed. -/
lemma framed_yielding (may : Conduct) : Framed may (WellFormed may) (Yielding may) where
  keeps h := h.keeps
  refl _ _ _ := .inl rfl
  trans hf hg hm := (hf hm).trans (hg hm)
  aside he hk hf := ⟨hf.of_engine he hk, fun _ => .inl he⟩

/-- Aborting and halting complete a stop. -/
lemma stops_halt (hs : g.status = .stopUpdates) (hc : g.connects = f.connects)
    (hd : g.disconnects = f.disconnects) : Stops f g.abortPending.haltTasks := by
  rw [haltTasks_eq, abortPending_eq]
  exact ⟨hs, rfl, hc, hd⟩

/-- A stop stops the feed, if subscribers do no more than that when they are told. -/
lemma stops_stop (hr : Respects (WellFormed may) (Yielding may) respond)
    (hmay : ∀ status operation, may (.status status) operation → operation = .stop)
    (hf : f.WellFormed may) : Stops f (f.stop respond) := by
  unfold stop
  rcases setStatus_cases respond .stopUpdates f with ⟨hs, he⟩ | ⟨-, ht⟩
  · rw [he]
    exact stops_halt hs rfl rfl
  · obtain ⟨-, hg⟩ := (framed_yielding may).told hr ht (hf.announce _)
    rcases hg (hmay _) with hg | hg
    · exact stops_halt (eq_of_engine hg Feed.status fun _ => rfl)
        (eq_of_engine hg Feed.connects fun k => connects_engine k)
        (eq_of_engine hg Feed.disconnects fun _ => rfl)
    · exact stops_halt hg.status hg.connects hg.disconnects

/-- On top of the bookkeeping, the feed is stopped at most where no more may be done. -/
theorem conducted_yielding
    (hmay : ∀ status operation, may (.status status) operation → operation = .stop) :
    Conducted may (WellFormed may) fun notice f g => f.Later g ∧ Yielding may notice f g := by
  refine (conducted_upkeep may).and (framed_yielding may) ?_ ?_ ?_ ?_
  · intro _ _ _ _ hm _ _ _ hstop
    exact absurd (hstop _ hm) (by simp)
  · intro _ _ hr _ _ f hf _
    exact .inr (stops_stop hr hmay hf)
  · intro _ _ _ _ hm _ _ _ _ hstop
    exact absurd (hstop _ hm) (by simp)
  · intro _ _ _ _ hm _ _ hstop
    exact absurd (hstop _ hm) (by simp)

end EventFeed.Feed
