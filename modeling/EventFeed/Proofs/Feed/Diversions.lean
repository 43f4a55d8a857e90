import EventFeed.Proofs.Feed.Passing

/-!
# What subscribers divert

Subscribers may operate the feed while they are told of a status, however deep notices nest. An
operation that is not refused ends the epoch, and it leads away from reconnecting unless it is a
reconnect itself. `Diverts` says so of whatever subscribers do on a notice, and it keeps account of
the reconnects that they ask for. A reconnect that announces itself and finds the feed reconnecting
afterwards can thus tell: either nothing has happened since it halted the feed, or a subscriber has
begun a reconnect of his own.
-/

namespace EventFeed.Feed

variable {may : Conduct} {respond : Respond} {f f' g : Feed}

/-! ### While subscribers are told -/

/-- Epochs have passed and reconnects have been asked for, and unless one has been in the meantime,
the feed is not reconnecting. -/
structure Departs (f g : Feed) : Prop where
  epoch : f.epoch ≤ g.epoch
  length : f.reconnects.length ≤ g.reconnects.length
  away : f.reconnects.length < g.reconnects.length ∨ g.status ≠ .reconnecting

/-- Nothing has happened to the engine, or a reconnect has been begun, or the epoch has passed and
the feed is not reconnecting. -/
structure Diverts (f g : Feed) : Prop where
  epoch : f.epoch ≤ g.epoch
  length : f.reconnects.length ≤ g.reconnects.length
  diverts : g.engine = f.engine ∨ f.reconnects.length < g.reconnects.length ∨
    (f.epoch < g.epoch ∧ g.status ≠ .reconnecting)

lemma Diverts.trans {h : Feed} (hf : Diverts f g) (hg : Diverts g h) : Diverts f h where
  epoch := Nat.le_trans hf.epoch hg.epoch
  length := Nat.le_trans hf.length hg.length
  diverts := by
    rcases hg.diverts with he | hl | ⟨hlt, hs⟩
    · have hsame := eq_of_engine he (fun k => (k.epoch, k.status, k.reconnects)) fun _ => rfl
      simp only [Prod.mk.injEq] at hsame
      rw [hsame.1, hsame.2.1, hsame.2.2, he]
      exact hf.diverts
    · exact .inr (.inl (Nat.lt_of_le_of_lt hf.length hl))
    · exact .inr (.inr ⟨Nat.lt_of_le_of_lt hf.epoch hlt, hs⟩)

/-- What happens to subscribers alone does not divert the feed. -/
lemma diverts_of_engine (he : g.engine = f.engine) : Diverts f g where
  epoch := Nat.le_of_eq (eq_of_engine he Feed.epoch fun _ => rfl).symm
  length := Nat.le_of_eq (congrArg List.length (eq_of_engine he Feed.reconnects fun _ => rfl)).symm
  diverts := .inl he

/-- So it can be relied on whatever subscribers register or forget. -/
lemma framed_diverts (may : Conduct) : Framed may (WellFormed may) (fun _ => Diverts) where
  keeps h := h.keeps
  refl _ _ := diverts_of_engine rfl
  trans := Diverts.trans
  aside he hk hf := ⟨hf.of_engine he hk, diverts_of_engine he⟩

/-- What departs with a new epoch diverts the feed. -/
lemma Departs.diverts (h : Departs f g) (hlt : f.epoch < g.epoch) : Diverts f g where
  epoch := h.epoch
  length := h.length
  diverts := .inr (h.away.imp_right fun hs => ⟨hlt, hs⟩)

/-- Epochs that pass and reconnects that are asked for before or after bring nobody back. -/
lemma Departs.congr {i j : Feed} (h : Departs f g) (hi : i.epoch ≤ f.epoch)
    (hl : i.reconnects.length = f.reconnects.length)
    (hj : (j.status, j.reconnects.length) = (g.status, g.reconnects.length))
    (he : g.epoch ≤ j.epoch) : Departs i j where
  epoch := Nat.le_trans hi (Nat.le_trans h.epoch he)
  length := by
    rw [hl, (Prod.mk.inj hj).2]
    exact h.length
  away := by
    rw [hl, (Prod.mk.inj hj).1, (Prod.mk.inj hj).2]
    exact h.away

lemma Departs.trans {h : Feed} (hf : Departs f g) (hg : Departs g h) : Departs f h where
  epoch := Nat.le_trans hf.epoch hg.epoch
  length := Nat.le_trans hf.length hg.length
  away := hg.away.imp_left fun hl => Nat.lt_of_le_of_lt hf.length hl

/-- A reconnect that goes on is no further one. -/
lemma length_setReconnect (n : Nat) (phase : ReconnectPhase) (f : Feed) :
    (f.setReconnect n phase).reconnects.length = f.reconnects.length :=
  List.length_modify ..

/-- A reconnect that is aborted is no further one. -/
lemma length_abortPending (f : Feed) : f.abortPending.reconnects.length = f.reconnects.length := by
  unfold abortPending
  split
  · rfl
  · exact List.length_modify ..

section Diverts

variable (hr : Respects (WellFormed may) (fun _ => Diverts) respond)

include hr

/-- While subscribers are told of a status, nothing happens to the engine, or they begin a
reconnect, or the epoch passes and the feed is not reconnecting. -/
lemma Told.diverts {s : ConnectionState} (ht : Told respond s f g) (hf : f.WellFormed may) :
    f.epoch ≤ g.epoch ∧ f.reconnects.length ≤ g.reconnects.length ∧
      (g.engine = (f.announce s).engine ∨ f.reconnects.length < g.reconnects.length ∨
        (f.epoch < g.epoch ∧ g.status ≠ .reconnecting)) := by
  obtain ⟨-, hd⟩ := (framed_diverts may).told hr ht (hf.announce s)
  exact ⟨hd.epoch, hd.length, hd.diverts⟩

/-- An announcement of anything but a reconnect leads away from reconnecting. -/
lemma Told.departs {s : ConnectionState} (ht : Told respond s f g) (hf : f.WellFormed may)
    (hs : s ≠ .reconnecting) : Departs f g := by
  obtain ⟨hepoch, hlen, he | hl | ⟨-, hst⟩⟩ := ht.diverts hr hf
  · have hst : g.status = s := eq_of_engine he Feed.status fun _ => rfl
    exact ⟨hepoch, hlen, .inr (hst ▸ hs)⟩
  · exact ⟨hepoch, hlen, .inl hl⟩
  · exact ⟨hepoch, hlen, .inr hst⟩

/-- Going on to anything but a reconnect does so as well. -/
lemma Entered.departs {s : ConnectionState} (ht : Entered respond s f g) (hf : f.WellFormed may)
    (hs : s ≠ .reconnecting) : Departs f g := by
  rcases ht with ⟨hst, rfl⟩ | ⟨-, ht⟩
  · exact ⟨Nat.le_refl _, Nat.le_refl _, .inr (hst ▸ hs)⟩
  · exact ht.departs hr hf hs

/-- A start is refused, or it diverts the feed. -/
lemma Started.diverts {retries : UInt32} (hs : Started respond retries f g)
    (hf : f.WellFormed may) : Diverts f g := by
  cases hs with
  | refused => exact diverts_of_engine rfl
  | overtaken _ ht hg =>
    obtain ⟨hepoch, hlen, he | hst⟩ := ht.diverts hr hf
    · exact absurd (eq_of_engine he Feed.status fun _ => rfl) hg
    · exact ⟨hepoch, hlen, .inr hst⟩
  | @begun k _ ht _ =>
    have hd := ht.departs hr hf (by simp)
    have hk : (k.generate retries).epoch = k.epoch + 1 ∧
        ((k.generate retries).status, (k.generate retries).reconnects.length) =
          (k.status, k.reconnects.length) := by
      unfold generate
      rw [abortSlot_eq]
      exact ⟨rfl, rfl⟩
    have hall : Departs f (k.generate retries) :=
      hd.congr (Nat.le_refl _) rfl hk.2 (by rw [hk.1]; exact Nat.le_succ _)
    refine hall.diverts ?_
    rw [hk.1]
    exact Nat.lt_succ_of_le hd.epoch

/-- A stop diverts the feed. -/
lemma diverts_stop (hf : f.WellFormed may) : Diverts f (f.stop respond) := by
  have hd := (entered_setStatus respond .stopUpdates f).departs hr hf (by simp)
  unfold stop
  generalize f.setStatus respond .stopUpdates = k at hd ⊢
  have hk : k.abortPending.haltTasks.epoch = k.epoch + 1 ∧
      (k.abortPending.haltTasks.status, k.abortPending.haltTasks.reconnects.length) =
        (k.status, k.reconnects.length) := by
    rw [haltTasks_eq, ← length_abortPending k]
    exact ⟨by rw [abortPending_eq], by rw [abortPending_eq]⟩
  have hall : Departs f k.abortPending.haltTasks :=
    hd.congr (Nat.le_refl _) rfl hk.2 (by rw [hk.1]; exact Nat.le_succ _)
  refine hall.diverts ?_
  rw [hk.1]
  exact Nat.lt_succ_of_le hd.epoch

/-- No reconnect is lost while one begins. -/
lemma length_beginReconnect (n : Nat) (r : Reconnect) (hf : f.WellFormed may) :
    f.reconnects.length ≤ (f.beginReconnect respond n r).reconnects.length := by
  have hrec : f.haltTasks.reconnects = f.reconnects := by rw [haltTasks_eq]
  rcases beginReconnect_cases respond n r f with ⟨-, -, he⟩ | ⟨-, k, ht, he⟩
  · exact Nat.le_of_eq (by rw [he, length_setReconnect, hrec])
  · rw [he, sleepReconnect_eq, length_setReconnect, ← hrec]
    rcases ht with ⟨-, rfl⟩ | ⟨-, ht⟩
    · exact Nat.le_refl _
    · exact (ht.diverts hr hf.haltTasks).2.1

/-- The end of a disconnect leads away from reconnecting. -/
lemma departs_endDisconnect (n : Nat) (hf : f.WellFormed may) :
    Departs f (f.endDisconnect respond n) := by
  obtain ⟨k, ht, he⟩ := endDisconnect_cases respond n f
  have hi : { f with installed := none }.WellFormed may := hf.uninstall
  rw [he]
  exact (ht.departs hr hi (by simp)).congr (Nat.le_refl _) rfl rfl (Nat.le_refl _)

end Diverts

section Orderly

variable (ho : Orderly may respond) (hr : Respects (WellFormed may) (fun _ => Diverts) respond)

include ho hr

/-- A disconnect leads away from reconnecting. -/
lemma departs_beginDisconnect (n : Nat) (hf : f.WellFormed may) :
    Departs f (f.beginDisconnect respond n) := by
  obtain ⟨k, ht, he⟩ := beginDisconnect_cases respond n f
  have hd := ht.departs hr hf (by simp)
  have hk := (ht.upkeep ho hf).1
  have hmid : ({ k.abortPending with slot := none, epoch := k.epoch + 1 }.status,
      { k.abortPending with slot := none, epoch := k.epoch + 1 }.reconnects.length) =
      (k.status, k.reconnects.length) := by
    rw [← length_abortPending k]
    exact congrArg (·, _) (by rw [abortPending_eq])
  have hall : Departs f { k.abortPending with slot := none, epoch := k.epoch + 1 } :=
    hd.congr (Nat.le_refl _) rfl hmid (Nat.le_succ _)
  rcases he with ⟨hs, he⟩ | ⟨e, -, he⟩
  · rw [he]
    exact hall.trans (departs_endDisconnect hr n (hk.abortPending_passEpoch hs))
  · rw [he]
    exact hall.congr (Nat.le_refl _) rfl rfl (Nat.le_refl _)

end Orderly

/-- On top of the bookkeeping, an operation does nothing, or it begins a reconnect, or it ends the
epoch and leads away from reconnecting. -/
theorem conducted_diverts (may : Conduct) :
    Conducted may (WellFormed may) fun _ f g => f.Later g ∧ Diverts f g := by
  refine (conducted_upkeep may).and (framed_diverts may) ?_ ?_ ?_ ?_
  · intro _ _ hr _ _ retries f hf
    exact (started_start _ retries f).diverts hr hf
  · intro _ _ hr _ _ f hf
    exact diverts_stop hr hf
  · intro _ ho hr _ _ delay retries f hf
    have hadd : (f.addReconnect delay retries).2.WellFormed may := hf.appendReconnect hf.claim rfl
    have hlt := lt_epoch_beginReconnect ho f.reconnects.length
      { scheduled := false, delay, retries } hadd
    have hlen := length_beginReconnect hr f.reconnects.length
      { scheduled := false, delay, retries } hadd
    have hmore : f.reconnects.length < (f.addReconnect delay retries).2.reconnects.length := by
      simp [addReconnect]
    have hgrew := Nat.lt_of_lt_of_le hmore hlen
    exact ⟨Nat.le_of_lt hlt, Nat.le_of_lt hgrew, .inr (.inl hgrew)⟩
  · intro _ ho hr _ _ f hf
    have hd := departs_beginDisconnect ho hr f.disconnects.length hf.addDisconnect
    have hall : Departs f (f.addDisconnect.2.beginDisconnect _ f.disconnects.length) :=
      hd.congr (Nat.le_refl _) rfl rfl (Nat.le_refl _)
    exact hall.diverts (lt_epoch_beginDisconnect ho _ hf.addDisconnect)

end EventFeed.Feed
