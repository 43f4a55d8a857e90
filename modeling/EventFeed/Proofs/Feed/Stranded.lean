import EventFeed.Proofs.Feed.Apart
import EventFeed.Proofs.Feed.Outline
import EventFeed.Proofs.Feed.Superseded

/-!
# Starts in the middle of an operation

Every operation tells subscribers of a status before it is done, and a subscriber may start the feed
in answer. The generation that it begins then exists while the rest of the operation is still to
come. A reconnect halts what runs before it says so, and has nothing left to halt; what is lost and
what is disconnected is already gone when subscribers hear of it. But a stop says so first and halts
afterwards, and so does the first part of a disconnect with the generation that it lets go of. They
end the generation that a subscriber has just begun, and the feed is left initializing with nothing
in its slot. From there no start leads on, since a feed that is initializing refuses it.

`Gains` says what an operation, or a step, has made of the status, and when it may leave the feed in
that way.
-/

namespace EventFeed

/-- A status that is told of before the tasks are taken out of the slot. -/
def ConnectionState.isForewarned : ConnectionState → Bool
  | stopUpdates | disconnecting => true
  | _ => false

namespace Feed

variable {may : Conduct} {respond : Respond} {f f' f₀ g : Feed} {s : ConnectionState}
  {news : List ConnectionState}

/-- The feed is initializing and holds no generation that could do so. -/
structure Stranded (f : Feed) : Prop where
  status : f.status = .initializing
  slot : f.slot = none

/-- On the way from `f` to `g` the feed has gone on to some statuses, the latest first. If a
generation was to begin among them then the epoch has ended, and the feed is stranded only if it was
before, or if it has gone on to a status that is told of too early. -/
structure Gains (news : List ConnectionState) (f g : Feed) : Prop where
  changes : g.changes = news ++ f.changes
  epoch : f.epoch ≤ g.epoch
  begun : .initializing ∈ news → f.epoch < g.epoch
  stranded : g.Stranded → (news = [] ∧ f.Stranded) ∨ ∃ s ∈ news, s.isForewarned = true

/-- On the way from `f` to `g` the feed has gone on to statuses, as `Gains` has it. -/
def Secures (f g : Feed) : Prop :=
  ∃ news, Gains news f g

lemma Gains.trans {h : Feed} {later : List ConnectionState} (hf : Gains news f g)
    (hg : Gains later g h) : Gains (later ++ news) f h where
  changes := by rw [hg.changes, hf.changes, List.append_assoc]
  epoch := Nat.le_trans hf.epoch hg.epoch
  begun hm := by
    rcases List.mem_append.1 hm with hm | hm
    · exact Nat.lt_of_le_of_lt hf.epoch (hg.begun hm)
    · exact Nat.lt_of_lt_of_le (hf.begun hm) hg.epoch
  stranded hs := by
    rcases hg.stranded hs with ⟨rfl, hsg⟩ | ⟨s, hm, hw⟩
    · exact hf.stranded hsg
    · exact .inr ⟨s, List.mem_append_left _ hm, hw⟩

/-- What is the same in status, slot and epoch has gained nothing. -/
lemma Gains.of_eq (he : (g.status, g.changes, g.epoch, g.slot) =
    (f.status, f.changes, f.epoch, f.slot)) : Gains [] f g := by
  simp only [Prod.mk.injEq] at he
  obtain ⟨status, changes, epoch, slot⟩ := he
  refine ⟨changes, Nat.le_of_eq epoch.symm, by simp, fun hs => .inl ⟨rfl, ?_⟩⟩
  exact ⟨status ▸ hs.status, slot ▸ hs.slot⟩

/-- What happens to the rest of the feed is of no account. -/
lemma Gains.congr (h : Gains news f g) {i : Feed}
    (he : (i.status, i.changes, i.epoch, i.slot) = (g.status, g.changes, g.epoch, g.slot)) :
    Gains news f i :=
  h.trans (.of_eq he)

/-- Feeds of one outline have gained nothing from each other. -/
lemma gains_of_outline (he : g.outline = f.outline) : Gains [] f g := by
  have hs : g.status = f.status := congrArg Outline.status he
  have hc : g.changes = f.changes := congrArg Outline.changes he
  have hp : g.epoch = f.epoch := congrArg Outline.epoch he
  have hl : g.slot = f.slot := congrArg Outline.slot he
  exact .of_eq (by rw [hs, hc, hp, hl])

/-- What ends the epoch may strand the feed only by a status that is told of too early. -/
lemma Gains.ended (hc : g.changes = news ++ f.changes) (he : f.epoch < g.epoch)
    (hs : g.Stranded → ∃ s ∈ news, s.isForewarned = true) : Gains news f g :=
  ⟨hc, Nat.le_of_lt he, fun _ => he, fun h => .inr (hs h)⟩

/-- Answers to any other status than initializing find a feed that is not stranded. -/
lemma Gains.announced (h : Gains news (f.announce s) g) (hs : s ≠ .initializing)
    (hc : f.changes = f₀.changes) (he : f₀.epoch ≤ f.epoch) : Gains (news ++ [s]) f₀ g where
  changes := by
    have hsaid : (f.announce s).changes = s :: f.changes := rfl
    rw [h.changes, hsaid, hc, List.append_assoc]
    rfl
  epoch := Nat.le_trans he h.epoch
  begun hm := by
    rcases List.mem_append.1 hm with hm | hm
    · exact Nat.lt_of_le_of_lt he (h.begun hm)
    · exact absurd (List.mem_singleton.1 hm).symm hs
  stranded hg := by
    rcases h.stranded hg with ⟨-, hsaid⟩ | ⟨t, hm, hw⟩
    · exact absurd hsaid.status hs
    · exact .inr ⟨t, List.mem_append_left _ hm, hw⟩

/-- What happens to subscribers alone gains nothing. -/
lemma framed_secures (may : Conduct) : Framed may (WellFormed may) fun _ => Secures where
  keeps h := h.keeps
  refl _ _ := ⟨[], .of_eq rfl⟩
  trans := by
    rintro - f g h ⟨news, hf⟩ ⟨later, hg⟩
    exact ⟨later ++ news, hf.trans hg⟩
  aside he hk hf := ⟨hf.of_engine he hk, [], gains_of_outline (outline_of_engine he)⟩

/-! ### Operations -/

section Secures

variable (hr : Respects (WellFormed may) (fun _ => Secures) respond)

include hr

/-- What answers to an announcement gain. -/
lemma Told.secures (ht : Told respond s f g) (hf : f.WellFormed may) :
    ∃ news, Gains news (f.announce s) g :=
  ((framed_secures may).told hr ht (hf.announce s)).2

/-- What going on to a status gains: nothing if the feed is there already. -/
lemma Entered.secures (he : Entered respond s f g) (hf : f.WellFormed may) :
    (f.status = s ∧ g = f) ∨ ∃ news, Gains news (f.announce s) g := by
  rcases he with hsame | ⟨-, ht⟩
  · exact .inl hsame
  · exact .inr (ht.secures hr hf)

/-- A start leaves a generation in the slot, unless subscribers have moved the feed on. -/
lemma secures_startWhere (hp : Respects (WellFormed may) (fun _ => Passes) respond)
    {allowed : Feed → Bool} {retries : UInt32} (hf : f.WellFormed may) :
    Secures f (startWhere respond allowed retries f).2 := by
  rcases startWhere_cases respond allowed retries f with ⟨-, he⟩ | ⟨hs, ha, k, hk, hcases⟩
  · rw [he]
    exact ⟨[], .of_eq rfl⟩
  have hlt := lt_epoch_startWhere hp allowed retries hf hs ha
  obtain ⟨news, hgains⟩ := hk.secures hr hf
  have hchanges : k.changes = (news ++ [.initializing]) ++ f.changes := by
    rw [hgains.changes, List.append_assoc]
    rfl
  rcases hcases with ⟨hmoved, he⟩ | ⟨-, he⟩
  · rw [he] at hlt ⊢
    exact ⟨_, .ended hchanges hlt fun h => absurd h.status hmoved⟩
  · rw [he] at hlt ⊢
    have hgen : (k.generate retries).changes = k.changes := by
      rw [generate, abortSlot_eq]
      rfl
    exact ⟨_, .ended (hgen.trans hchanges) hlt fun h => absurd h.slot (by simp [generate])⟩

/-- A stop is told of too early. -/
lemma secures_stop (ho : Orderly may respond) (hf : f.WellFormed may) :
    Secures f (f.stop respond) := by
  have hlt := lt_epoch_stop ho hf
  have hend : (f.stop respond).changes = (f.setStatus respond .stopUpdates).changes ∧
      (f.stop respond).status = (f.setStatus respond .stopUpdates).status := by
    unfold stop
    rw [haltTasks_eq, abortPending_eq]
    exact ⟨rfl, rfl⟩
  rcases (entered_setStatus respond .stopUpdates f).secures hr hf with ⟨hs, he⟩ | ⟨news, hgains⟩
  · rw [he] at hend
    refine ⟨[], .ended hend.1 hlt fun h => ?_⟩
    rw [← hend.2, h.status] at hs
    exact absurd hs (by simp)
  · refine ⟨news ++ [.stopUpdates], .ended ?_ hlt fun _ => ⟨.stopUpdates, by simp, rfl⟩⟩
    rw [hend.1, hgains.changes, List.append_assoc]
    rfl

/-- The first part of a reconnect has halted what runs when subscribers are told. -/
lemma secures_beginReconnect (n : Nat) (r : Reconnect) (hf : f.WellFormed may) :
    Secures f (f.beginReconnect respond n r) := by
  have hhalt : f.haltTasks.changes = f.changes ∧ f.haltTasks.status = f.status ∧
      f.haltTasks.epoch = f.epoch + 1 := by
    rw [haltTasks_eq]
    exact ⟨rfl, rfl, rfl⟩
  obtain ⟨hchanges, hstatus, hepoch⟩ := hhalt
  have hlt : f.epoch < f.haltTasks.epoch := by rw [hepoch]; exact Nat.lt_succ_self _
  rcases beginReconnect_cases respond n r f with ⟨-, hh, he⟩ | ⟨-, k, hk, he⟩
  · rw [he]
    refine ⟨[], .ended hchanges hlt fun h => ?_⟩
    have hs : f.haltTasks.status = .initializing := h.status
    rw [← hstatus, hs] at hh
    exact absurd hh (by simp [ConnectionState.isHalted])
  have hsleep : Gains [] k (k.sleepReconnect n r) :=
    .congr (gains_of_outline (outline_of_engine (engine_log k _ _ _))) rfl
  rw [he]
  rcases hk.secures hr hf.haltTasks with ⟨hs, rfl⟩ | ⟨news, hgains⟩
  · refine ⟨[], .congr (.ended hchanges hlt fun h => ?_) rfl⟩
    exact absurd (hs.symm.trans h.status) (by simp)
  · exact ⟨_, (hgains.announced (by simp) hchanges (Nat.le_of_lt hlt)).trans hsleep⟩

/-- The last part of a disconnect has nothing left to do when subscribers are told. -/
lemma secures_endDisconnect (n : Nat) (hf : f.WellFormed may) :
    Secures f (f.endDisconnect respond n) := by
  obtain ⟨k, hk, he⟩ := endDisconnect_cases respond n f
  have hi : { f with installed := none }.WellFormed may := hf.uninstall
  rw [he]
  rcases hk.secures hr hi with ⟨-, rfl⟩ | ⟨news, hgains⟩
  · exact ⟨[], .of_eq rfl⟩
  · have hsaid : Gains (news ++ [.disconnected]) f k :=
      hgains.announced (by simp) rfl (Nat.le_refl f.epoch)
    exact ⟨_, hsaid.congr rfl⟩

/-- The first part of a disconnect is told of too early. -/
lemma secures_beginDisconnect (ho : Orderly may respond) (n : Nat) (hf : f.WellFormed may) :
    Secures f (f.beginDisconnect respond n) := by
  have hlt := lt_epoch_beginDisconnect ho n hf
  obtain ⟨k, hk, he⟩ := beginDisconnect_cases respond n f
  have hpend : k.abortPending.changes = k.changes ∧ k.abortPending.status = k.status := by
    rw [abortPending_eq]
    exact ⟨rfl, rfl⟩
  obtain ⟨hchanges, hstatus⟩ := hpend
  -- What is left to do once subscribers have been told.
  obtain ⟨later, hrest⟩ :
      Secures { k.abortPending with slot := none, epoch := k.epoch + 1 }
        (f.beginDisconnect respond n) := by
    rcases he with ⟨hs, he⟩ | ⟨e, -, he⟩
    · have hpass := (hk.upkeep ho hf).1.abortPending_passEpoch hs
      rw [he]
      exact secures_endDisconnect hr n hpass
    · rw [he]
      exact ⟨[], .of_eq rfl⟩
  have hc : (f.beginDisconnect respond n).changes = later ++ k.changes :=
    hrest.changes.trans (congrArg _ hchanges)
  rcases hk.secures hr hf with ⟨hs, rfl⟩ | ⟨news, hgains⟩
  · refine ⟨later, .ended hc hlt fun h => (hrest.stranded h).resolve_left fun hno => ?_⟩
    have hst : k.abortPending.status = .initializing := hno.2.status
    rw [hstatus, hs] at hst
    exact absurd hst (by simp)
  · refine ⟨later ++ (news ++ [.disconnecting]), .ended ?_ hlt fun _ =>
      ⟨.disconnecting, by simp, rfl⟩⟩
    rw [hc, hgains.changes, List.append_assoc, List.append_assoc]
    rfl

end Secures

/-- On top of epochs that pass, operations strand the feed only by a status that is told of too
early. -/
theorem conducted_secures (may : Conduct) :
    Conducted may (WellFormed may) fun _ f g => (f.Later g ∧ Passes f g) ∧ Secures f g := by
  refine (conducted_passes may).and (framed_secures may) ?_ ?_ ?_ ?_
  · intro _ hp hr _ _ retries f hf
    exact secures_startWhere hr hp.and.2 hf
  · intro _ hp hr _ _ f hf
    exact secures_stop hr hp.and.1 hf
  · intro _ _ hr _ _ delay retries f hf
    have hadd : (f.addReconnect delay retries).2.WellFormed may := hf.appendReconnect hf.claim rfl
    have hsame : Gains [] f (f.addReconnect delay retries).2 := .of_eq rfl
    obtain ⟨news, hgains⟩ := secures_beginReconnect hr f.reconnects.length
      { scheduled := false, delay, retries } hadd
    exact ⟨_, hsame.trans hgains⟩
  · intro _ hp hr _ _ f hf
    have hsame : Gains [] f f.addDisconnect.2 := .of_eq rfl
    obtain ⟨news, hgains⟩ := secures_beginDisconnect hr hp.and.1 f.disconnects.length
      hf.addDisconnect
    exact ⟨_, hsame.trans hgains⟩

/-! ### Steps -/

/-- What an act gains, unless the caller lets go of the feed. -/
lemma Acts.secures {event : Event} (ha : Acts respond f event g)
    (hr : Respects (WellFormed may)
      (fun _ f g => (f.Later g ∧ Passes f g) ∧ Secures f g) respond)
    (hf : f.WellFormed may) (hne : event ≠ .call .release) : Secures f g := by
  obtain ⟨hpass, ht⟩ := hr.and
  have saidEvent : ∀ e, Secures f (publishEvent respond e f).2 := by
    intro e
    have hn : (f.note (.eventPublished e)).WellFormed may := hf.note _
    have hsame : Gains [] f (f.note (.eventPublished e)) := .of_eq rfl
    obtain ⟨news, hgains⟩ := ((framed_secures may).publishEvent ht hn).2
    exact ⟨_, hsame.trans hgains⟩
  cases ha with
  | idle => exact ⟨[], .of_eq rfl⟩
  | started retries => exact secures_startWhere ht hpass.and.2 hf
  | stopped => exact secures_stop ht hpass.and.1 hf
  | released => exact absurd rfl hne
  | saidStatus s =>
    have hn : (f.note (.statusPublished s)).WellFormed may := hf.note _
    have hsame : Gains [] f (f.note (.statusPublished s)) := .of_eq rfl
    obtain ⟨news, hgains⟩ := ((framed_secures may).publishStatus ht hn).2
    exact ⟨_, hsame.trans hgains⟩
  | saidEvent e => exact saidEvent e
  | relayed e => exact saidEvent e
  | lost _ _ _ hg =>
    obtain ⟨news, hgains⟩ := hg.secures ht hf
    exact ⟨_, hgains.announced (by simp) rfl (Nat.le_refl _)⟩
  | opened _ _ hg =>
    obtain ⟨news, hgains⟩ := hg.secures ht (hf.install _)
    exact ⟨_, hgains.announced (by simp) rfl (Nat.le_refl _)⟩
  | refused => exact ⟨[], .of_eq rfl⟩
  | reconnected => exact secures_beginReconnect ht _ _ hf
  | restarted => exact secures_startWhere ht hpass.and.2 hf
  | disconnectBegan => exact secures_beginDisconnect ht hpass.and.1 _ hf
  | disconnectEnded => exact secures_endDisconnect ht _ hf
  | givenUp => exact ⟨[], .of_eq rfl⟩

/-- What a step gains, unless the caller lets go of the feed. -/
theorem secures_of_step? {depth : Nat} {event : Event} (hf : f.WellFormed may)
    (hp : f.Placed False) (hs : f.step? depth event = some f') (hne : event ≠ .call .release) :
    Secures f f' := by
  obtain ⟨k, k', hk, hkf, -, hacts, he⟩ := performs_of_step? hf hp hs
  obtain ⟨news, hgains⟩ := hacts.secures ((conducted_secures may).respond depth) hk hne
  exact ⟨_, ((gains_of_outline hkf).trans hgains).trans (gains_of_outline he)⟩

/-! ### What has been begun -/

/-- A generation that has been begun since `f` is underway: it is the one that was begun last, it is
held in the slot under the current epoch, none of its tasks has taken a step, and nobody has told
them to end. -/
structure Underway (f g : Feed) : Prop where
  epoch : f.epoch < g.epoch
  slot : g.slot = some g.epoch
  last : ∃ k, g.generations.getLast? = some k ∧ k.epoch = g.epoch ∧ k.Unborn ∧ k.Untouched

/-- The generation of the current epoch is the last one. -/
lemma WellFormed.getLast?_eq (hf : f.WellFormed may) {k : Generation} (hk : k ∈ f.generations)
    (he : k.epoch = f.epoch) : f.generations.getLast? = some k := by
  cases hl : f.generations.getLast? with
  | none =>
    rw [List.getLast?_eq_none_iff.1 hl] at hk
    exact absurd hk List.not_mem_nil
  | some j =>
    obtain ⟨front, hfront⟩ := List.getLast?_eq_some_iff.1 hl
    have hj : j ∈ f.generations := by simp [hfront]
    have hsorted := hf.sorted
    rw [hfront, List.pairwise_append] at hsorted
    rw [hfront] at hk
    rcases List.mem_append.1 hk with hk | hk
    · have hlt := hsorted.2.2 k hk j (List.mem_singleton.2 rfl)
      exact absurd (hf.epoch_le hj) (by omega)
    · rw [List.mem_singleton.1 hk]

/-- What has been begun on the way from `f` to `g` is underway, unless the feed has gone on to a
status that is told of too early or is no longer initializing; and the feed is stranded only if it
was before, or by such a status. -/
def Sustains (f g : Feed) : Prop :=
  ∃ news, g.changes = news ++ f.changes ∧
    (g.Stranded → (news = [] ∧ f.Stranded) ∨ ∃ s ∈ news, s.isForewarned = true) ∧
    (.initializing ∈ news → (∀ s ∈ news, s.isForewarned = false) →
      g.status ≠ .initializing ∨ Underway f g)

/-- Generations that have been begun are sustained, since none of their tasks has taken a step. -/
lemma Secures.sustains (h : Secures f g) (hg : g.WellFormed may)
    (hnew : ∀ k ∈ g.generations, f.epoch < k.epoch → k.Unborn) : Sustains f g := by
  obtain ⟨news, hgains⟩ := h
  refine ⟨news, hgains.changes, hgains.stranded, fun hbegun hplain => ?_⟩
  by_cases hs : g.status = .initializing
  · right
    have hheld : g.slot ≠ none := by
      intro hslot
      rcases hgains.stranded ⟨hs, hslot⟩ with ⟨rfl, -⟩ | ⟨s, hm, hw⟩
      · exact absurd hbegun List.not_mem_nil
      · exact absurd ((hplain s hm).symm.trans hw) (by simp)
    obtain ⟨e, he⟩ := Option.ne_none_iff_exists'.1 hheld
    obtain ⟨rfl, k, hk, hke⟩ := hg.slot e he
    have hlt := hgains.begun hbegun
    refine ⟨hlt, he, k, hg.getLast?_eq hk hke, hke, hnew k hk (hke ▸ hlt), ?_⟩
    exact hg.held k hk (by rw [he, hke])
  · exact .inl hs

/-- Operations begin generations whose tasks take no step. -/
lemma Idles.unborn (h : Idles f g) (hf : f.WellFormed may) :
    ∀ k ∈ g.generations, f.epoch < k.epoch → k.Unborn := by
  intro k' hk' hlt
  rcases h.generations k' hk' with ⟨k, hk, hl⟩ | ⟨-, hu⟩
  · rw [hl.epoch] at hlt
    exact absurd (hf.epoch_le hk) (Nat.not_le.2 hlt)
  · exact hu

/-- So do steps. -/
lemma unborn_of_step? {depth : Nat} {event : Event} (hf : f.WellFormed may)
    (hs : f.step? depth event = some f') :
    ∀ k ∈ f'.generations, f.epoch < k.epoch → k.Unborn := by
  intro k' hk' hlt
  rcases spares_of_step? hf hs with ⟨now, -, -, rfl⟩ | hspares
  · exact absurd (hf.epoch_le hk') (Nat.not_le.2 hlt)
  rcases hspares.generations k' hk' with ⟨k, hk, he, -⟩ | ⟨-, hu⟩
  · rw [← he] at hlt
    exact absurd (hf.epoch_le hk) (Nat.not_le.2 hlt)
  · exact hu

/-- What a subscriber does with a command sustains what is begun. -/
lemma sustains_obey (depth n : Nat) (c : Command) (hf : f.WellFormed .free) :
    Sustains f (f.obey (Feed.respond depth) n c).2 := by
  have hkeeps : c.Keeps .free (.status f.status) := c.keeps_free _
  obtain ⟨hg, hsecures⟩ := (conducted_secures .free).obey
    ((conducted_secures .free).respond depth) n hkeeps f hf
  obtain ⟨-, hidles⟩ := (partwise_idles.conducted .free).obey
    ((partwise_idles.conducted .free).respond depth) n hkeeps f hf
  exact hsecures.2.sustains hg (hidles.2.unborn hf)

/-- A disconnect leaves nothing in the slot when it begins to wait. -/
lemma slot_of_disconnectBegan {depth n : Nat} (hf : f.WellFormed may)
    (hs : f.step? depth (.run (.disconnect n) .first) = some f') :
    f'.slot = none ∨ f'.stage n = .finished := by
  have hr := orderly_respond may depth
  cases stepped_of_step? hf hs with
  | @disconnectBegan _ d hd hp =>
    have hturn := hf.turn (.disconnect n) (by simp)
    obtain ⟨-, i, phase, hi, hl⟩ := upkeep_beginDisconnect hr n hturn ⟨d, hd, hp⟩
    obtain ⟨k, -, ⟨-, he⟩ | ⟨e, -, he⟩⟩ := beginDisconnect_cases (Feed.respond depth) n
      { f with current := some (.disconnect n) }
    · right
      obtain ⟨j, -, hj⟩ := endDisconnect_cases (Feed.respond depth) n
        { k.abortPending with slot := none, epoch := k.epoch + 1 }
      have hlen : n < j.disconnects.length := by
        have hset : (i.setDisconnect n phase).disconnects.length =
            (j.setDisconnect n .finished).disconnects.length := by
          rw [← hi, he, hj]
        have hsame : i.disconnects.length = j.disconnects.length := by
          simpa [setDisconnect] using hset
        have hni := (List.getElem?_eq_some_iff.1 (hl.disconnects n d hd)).1
        exact hsame ▸ hni
      rw [he, hj]
      exact stage_setDisconnect_self .finished hlen
    · left
      rw [he]
      rfl

/-- What becomes of a start that a subscriber asks for in the middle of an operation. After every
step and every operation of a subscriber the generation that was begun last is underway, unless the
feed is no longer initializing, or has gone on to `StopUpdates` or `Disconnecting` in the meantime;
and otherwise the feed is never left initializing with an empty slot. But a stop ends with an empty
slot whatever subscribers have begun, and so does the first part of a disconnect that has to wait.
If the feed is initializing then, it refuses every further start. -/
theorem nested_start_survives {depth : Nat} :
    (∀ {f f' : Feed} {event : Event}, Reachable depth anyEvent f →
      f.step? depth event = some f' → event ≠ .call .release → Sustains f f') ∧
    (∀ {f : Feed} (n : Nat) (c : Command), f.WellFormed .free →
      Sustains f (f.obey (Feed.respond depth) n c).2) ∧
    (∀ {f f' : Feed}, f.step? depth (.call .stop) = some f' → f'.slot = none) ∧
    (∀ {f f' : Feed} {n : Nat}, Reachable depth anyEvent f →
      f.step? depth (.run (.disconnect n) .first) = some f' →
      f'.slot = none ∨ f'.stage n = .finished) ∧
    ∀ {f : Feed} (retries : UInt32), f.Stranded →
      f.step? depth (.call (.start retries)) = some { f with current := none } := by
  have hfree : ∀ {k : Feed}, Reachable depth anyEvent k → k.WellFormed .free ∧ k.Placed False :=
    fun hr => hr.placed False.elim
  refine ⟨fun {f f' event} hr hs hne => ?_, fun {f} n c hf => sustains_obey depth n c hf,
    fun {f f'} hs => ?_, fun {f f' n} hr hs => slot_of_disconnectBegan (hfree hr).1 hs,
    fun {f} retries hs => ?_⟩
  · obtain ⟨hf, hp⟩ := hfree hr
    have hf' : f'.WellFormed .free := (hfree (hr.step trivial hs)).1
    exact (secures_of_step? hf hp hs hne).sustains hf' (unborn_of_step? hf hs)
  · obtain rfl := Option.some.inj hs
    show (stop (Feed.respond depth) { f with current := none }).slot = none
    rw [stop, haltTasks_eq]
  · rcases startWhere_cases (Feed.respond depth) (fun f => f.status ≠ .connected) retries
      { f with current := none } with ⟨-, he⟩ | ⟨hninit, -⟩
    · have hstart : { f with current := none }.start (Feed.respond depth) retries =
        { f with current := none } := congrArg Prod.snd he
      exact congrArg some hstart
    · exact absurd hs.status hninit

/-- A subscriber that starts the feed when the connection is lost: what it has begun is underway
when the report of the loss is done. The caller may then stop the feed. -/
theorem nested_start_survives_instances :
    ∃ f f' f'' : Feed, f.status = .connected ∧
      f.step? 1 (.run (.loop 1) .ended) = some f' ∧
      f'.changes = [.initializing, .lostConnection] ++ f.changes ∧ Underway f f' ∧
      f'.step? 1 (.call .stop) = some f'' ∧ f''.slot = none := by
  let again : Handler := answering (.status .lostConnection) (.start 0)
  let events : List Event :=
    [.call (.subscribe .status "again" again), .call (.start 0), .run (.loop 1) .first,
      .run (.loop 1) (.connected 0)]
  obtain ⟨f, hf, f', hs, f'', hs', hst, hc, hc', hst'⟩ : ∃ f ∈ played? 1 events,
      ∃ f' ∈ f.step? 1 (.run (.loop 1) .ended), ∃ f'' ∈ f'.step? 1 (.call .stop),
        f.status = .connected ∧ f.changes = [.connected, .initializing] ∧
        f'.changes = [.initializing, .lostConnection, .connected, .initializing] ∧
        f'.status = .initializing := by
    decide +kernel
  obtain ⟨hstep, -, hstop, -⟩ := @nested_start_survives 1
  have hr : Reachable 1 anyEvent f := .of_played? hf fun _ _ _ => trivial
  obtain ⟨news, hnews, -, hbegun⟩ := hstep hr hs (by simp)
  obtain rfl : news = [.initializing, .lostConnection] := by
    have hsame : news ++ f.changes = [.initializing, .lostConnection] ++ f.changes := by
      rw [← hnews, hc, hc']
      rfl
    exact List.append_cancel_right hsame
  have hunder := (hbegun (by simp) (by simp [ConnectionState.isForewarned])).resolve_left
    (fun hne => hne hst')
  exact ⟨f, f', f'', hst, hs, hnews, hunder, hs', hstop hs'⟩

/-- A subscriber that starts the feed when it is stopped. The stop ends the generation that has been
begun: the feed is initializing with an empty slot, and a further start does nothing. -/
theorem stop_strands_start :
    ∃ f f' f'' : Feed, Reachable 1 anyEvent f ∧ f.step? 1 (.call .stop) = some f' ∧
      f'.changes = [.initializing, .stopUpdates] ++ f.changes ∧
      f'.status = .initializing ∧ f'.slot = none ∧
      f'.generations.map Generation.epoch = [1, 2] ∧
      (∀ g ∈ f'.generations, g.loopAborted = true ∧ g.watchAborted = true) ∧
      f'.step? 1 (.call (.start 0)) = some f'' ∧ f''.changes = f'.changes ∧
      f''.epoch = f'.epoch ∧ f''.slot = none := by
  let again : Handler := answering (.status .stopUpdates) (.start 0)
  let events : List Event :=
    [.call (.subscribe .status "again" again), .call (.start 0), .run (.loop 1) .first,
      .run (.loop 1) (.connected 0)]
  obtain ⟨f, hf, f', hs, f'', hs', hview⟩ : ∃ f ∈ played? 1 events,
      ∃ f' ∈ f.step? 1 (.call .stop), ∃ f'' ∈ f'.step? 1 (.call (.start 0)),
        f'.changes = [.initializing, .stopUpdates] ++ f.changes ∧
        f'.status = .initializing ∧ f'.slot = none ∧
        f'.generations.map Generation.epoch = [1, 2] ∧
        (∀ g ∈ f'.generations, g.loopAborted = true ∧ g.watchAborted = true) ∧
        f''.changes = f'.changes ∧ f''.epoch = f'.epoch ∧ f''.slot = none := by
    decide +kernel
  obtain ⟨hc, hst, hslot, hgen, hab, hsame⟩ := hview
  have hr : Reachable 1 anyEvent f := .of_played? hf fun _ _ _ => trivial
  exact ⟨f, f', f'', hr, hs, hc, hst, hslot, hgen, hab, hs', hsame⟩

end Feed

end EventFeed
