import EventFeed.Proofs.Feed.WellFormed

/-!
# The bookkeeping is kept

Every operation keeps a feed well-formed and leaves alone what `Later` speaks of, provided that
answers do so at the announcements in its midst. Answers at every depth do so in turn. A relation
that is respected on top of this may rely on it, which is what `Conducted.and` is for.
-/

namespace EventFeed.Feed

variable {may : Conduct} {respond : Respond} {f g : Feed}

/-- Answers keep the bookkeeping, and leave alone what operations leave alone. -/
abbrev Orderly (may : Conduct) (respond : Respond) : Prop :=
  Respects (WellFormed may) (fun _ => Later) respond

/-- The bookkeeping has nothing to do with what happens to subscribers alone. -/
lemma WellFormed.of_engine (hf : f.WellFormed may) (he : g.engine = f.engine)
    (hk : g.Keeps may) : g.WellFormed may :=
  hf.congr hk (eq_of_engine he Feed.books fun _ => rfl)

/-- Neither have the tasks that exist. -/
lemma later_of_engine (he : g.engine = f.engine) : f.Later g := by
  refine Later.congr (eq_of_engine he Feed.settings fun _ => rfl)
    (eq_of_engine he Feed.now fun _ => rfl) (eq_of_engine he Feed.current fun _ => rfl)
    (eq_of_engine he Feed.claim fun _ => rfl) (eq_of_engine he Feed.epoch fun _ => rfl)
    (.inl (eq_of_engine he Feed.installed fun _ => rfl)) ?_
    (eq_of_engine he Feed.generations fun _ => rfl) (eq_of_engine he Feed.reconnects fun _ => rfl)
    (eq_of_engine he Feed.disconnects fun _ => rfl)
  exact he ▸ List.suffix_rfl

/-- So both can be relied on whatever subscribers register or forget. -/
lemma framed_upkeep (may : Conduct) : Framed may (WellFormed may) fun _ => Later where
  keeps h := h.keeps
  refl _ := Later.refl
  trans := Later.trans
  aside he hk hf := ⟨hf.of_engine he hk, later_of_engine he⟩

/-! ### Changes of the state -/

/-- An announcement keeps the bookkeeping. -/
lemma WellFormed.announce (hf : f.WellFormed may) (s : ConnectionState) :
    (f.announce s).WellFormed may :=
  hf.congr (hf.keeps.congr rfl) rfl

/-- An announcement leaves tasks alone. -/
lemma later_announce (f : Feed) (s : ConnectionState) : f.Later (f.announce s) :=
  Later.congr rfl rfl rfl rfl rfl (.inl rfl) (List.suffix_append [_, _] _) rfl rfl rfl

/-- Halting leaves tasks where they are. -/
lemma later_haltTasks (f : Feed) : f.Later f.haltTasks := by
  rw [haltTasks_eq]
  refine { Later.refl f with
    epoch := Nat.le_succ _
    installed := .inr rfl
    generations := fun g hg => ⟨_, List.mem_map_of_mem hg, ?_⟩ }
  split
  · exact .abort g
  · exact .refl g

/-- Aborting the scheduled reconnect leaves tasks where they are. -/
lemma later_abortPending (f : Feed) : f.Later f.abortPending := by
  rw [abortPending_eq]
  refine { Later.refl f with
    reconnects := fun n r hr => ?_ }
  refine ⟨_, by rw [getElem?_reconnects_abortPending, hr]; rfl, ?_⟩
  split <;> rfl

/-- A generation that begins leaves other tasks where they are. -/
lemma later_generate (retries : UInt32) (f : Feed) : f.Later (f.generate retries) := by
  unfold generate
  rw [abortSlot_eq]
  refine { Later.refl f with
    epoch := Nat.le_succ _
    generations := fun g hg => ⟨_, List.mem_append_left _ (List.mem_map_of_mem hg), ?_⟩ }
  split
  · exact .abort g
  · exact .refl g

/-- Letting go of a generation leaves tasks where they are. -/
lemma later_letGo (epoch : Nat) (f : Feed) :
    f.Later ({ f with slot := none, epoch := f.epoch + 1 }.letGo epoch) := by
  refine { Later.refl f with
    epoch := Nat.le_succ _
    generations := fun g hg => ⟨_, List.mem_map_of_mem hg, ?_⟩ }
  split
  · exact ⟨rfl, rfl, rfl, rfl, id, fun _ => rfl, fun _ => rfl⟩
  · exact .refl g

/-- A reconnect that is asked for leaves those that exist where they are. -/
lemma later_addReconnect (delay : Option Duration) (retries : UInt32) (f : Feed) :
    f.Later (f.addReconnect delay retries).2 :=
  { Later.refl f with
    reconnects := fun _ r hr =>
      ⟨r, (List.getElem?_append_left (List.getElem?_eq_some_iff.1 hr).1).trans hr, rfl⟩ }

/-- A disconnect that is asked for leaves those that exist where they are. -/
lemma later_addDisconnect (f : Feed) : f.Later f.addDisconnect.2 :=
  { Later.refl f with
    disconnects := fun _ _ hd =>
      (List.getElem?_append_left (List.getElem?_eq_some_iff.1 hd).1).trans hd }

/-! ### Operations -/

section Orderly

variable (hr : Orderly may respond)

include hr

/-- All answers to an announcement keep the bookkeeping. -/
lemma Told.upkeep {s : ConnectionState} (ht : Told respond s f g) (hf : f.WellFormed may) :
    g.WellFormed may ∧ f.Later g := by
  obtain ⟨hg, hl⟩ := (framed_upkeep may).told hr ht (hf.announce s)
  exact ⟨hg, (later_announce f s).trans hl⟩

/-- Going on to a status keeps the bookkeeping. -/
lemma Entered.upkeep {s : ConnectionState} (ht : Entered respond s f g) (hf : f.WellFormed may) :
    g.WellFormed may ∧ f.Later g := by
  rcases ht with ⟨-, rfl⟩ | ⟨-, ht⟩
  · exact ⟨hf, .refl g⟩
  · exact ht.upkeep hr hf

/-- A start keeps the bookkeeping, whoever asks for it. -/
lemma Started.upkeep {retries : UInt32} (hs : Started respond retries f g)
    (hf : f.WellFormed may) : g.WellFormed may ∧ f.Later g := by
  cases hs with
  | refused => exact ⟨hf, .refl f⟩
  | overtaken _ ht _ => exact ht.upkeep hr hf
  | @begun g _ ht _ =>
    obtain ⟨hg, hl⟩ := ht.upkeep hr hf
    exact ⟨hg.generate retries, hl.trans (later_generate retries g)⟩

/-- A stop keeps the bookkeeping. -/
lemma upkeep_stop (hf : f.WellFormed may) :
    (f.stop respond).WellFormed may ∧ f.Later (f.stop respond) := by
  obtain ⟨hg, hl⟩ := (entered_setStatus respond .stopUpdates f).upkeep hr hf
  exact ⟨hg.abortPending.haltTasks,
    (hl.trans (later_abortPending _)).trans (later_haltTasks _)⟩

/-- The first part of a reconnect keeps the bookkeeping, and but for that reconnect, which goes on,
it leaves tasks where they are. -/
lemma upkeep_beginReconnect (n : Nat) (r : Reconnect) (hf : f.WellFormed may) :
    (f.beginReconnect respond n r).WellFormed may ∧
      ∃ g phase, f.beginReconnect respond n r = g.setReconnect n phase ∧ phase ≠ .waiting ∧
        f.Later g := by
  rcases beginReconnect_cases respond n r f with ⟨-, -, he⟩ | ⟨-, g, ht, he⟩
  · rw [he]
    exact ⟨hf.haltTasks.setReconnect (by simp) n, _, _, rfl, by simp, later_haltTasks f⟩
  · obtain ⟨hg, hl⟩ := ht.upkeep hr hf.haltTasks
    rw [he, sleepReconnect_eq]
    generalize hfields : [("delay_ms", _), ("attempt", _)] = fields
    have hlog := hg.log .info "Reconnecting event stream" fields
    have hlater : g.Later (g.log .info "Reconnecting event stream" fields) :=
      later_of_engine (engine_log g _ _ _)
    refine ⟨hlog.setReconnect (fun t e hp => ?_) n, _, _, rfl, by simp,
      ((later_haltTasks f).trans hl).trans hlater⟩
    injection hp with _ hp
    exact hp.symm

/-- But for the disconnect itself, its last part leaves tasks where they are. -/
lemma endDisconnect_eq (n : Nat) (hf : f.WellFormed may) :
    ∃ g, f.endDisconnect respond n = g.setDisconnect n .finished ∧ g.WellFormed may ∧
      f.Later g := by
  obtain ⟨g, ht, he⟩ := endDisconnect_cases respond n f
  have hi : { f with installed := none }.WellFormed may := hf.uninstall
  have hli : f.Later { f with installed := none } :=
    Later.congr rfl rfl rfl rfl rfl (.inr rfl) List.suffix_rfl rfl rfl rfl
  obtain ⟨hg, hl⟩ := ht.upkeep hr hi
  exact ⟨g, he, hg, hli.trans hl⟩

/-- The last part of a disconnect keeps the bookkeeping if the read loop that it waits for is
aborted or has come to its end. -/
lemma upkeep_endDisconnect (n : Nat) (hf : f.WellFormed may)
    (hn : ∃ d, f.disconnects[n]? = some d ∧ ∀ e t, d.phase = .joining e t →
      ∀ g ∈ f.generations, g.epoch = e → g.loopAborted = true ∨ g.loop = .finished) :
    (f.endDisconnect respond n).WellFormed may := by
  obtain ⟨g, he, hg, hfg⟩ := endDisconnect_eq hr n hf
  rw [he]
  refine hg.finishDisconnect n fun d hd e t hp k hk hke => ?_
  -- Answers leave the disconnect and the read loop as they were, or abort the latter.
  obtain ⟨d₀, hd₀, hn⟩ := hn
  have hdd : d = d₀ := by
    have := hfg.disconnects n d₀ hd₀
    rw [hd] at this
    exact Option.some.inj this
  subst hdd
  obtain ⟨k₀, hk₀, hk₀e⟩ := (hf.joining n d hd₀ e t hp).begun
  obtain ⟨k', hk', hkk'⟩ := hfg.generations k₀ hk₀
  obtain rfl := hg.eq_of_epoch_eq hk hk' (by rw [hke, hkk'.epoch, hk₀e])
  rcases hn e t hp k₀ hk₀ hk₀e with ha | hfin
  · exact .inl (hkk'.loopAborted ha)
  · exact .inr (hkk'.loop.trans hfin)

/-- The first part of a disconnect keeps the bookkeeping, and but for that disconnect it leaves
tasks where they are. -/
lemma upkeep_beginDisconnect (n : Nat) (hf : f.WellFormed may)
    (hn : ∃ d, f.disconnects[n]? = some d ∧ d.phase = .waiting) :
    (f.beginDisconnect respond n).WellFormed may ∧
      ∃ g phase, f.beginDisconnect respond n = g.setDisconnect n phase ∧ f.Later g := by
  obtain ⟨d, hd, hp⟩ := hn
  obtain ⟨g, ht, he⟩ := beginDisconnect_cases respond n f
  obtain ⟨hg, hl⟩ := ht.upkeep hr hf
  have hga := hg.abortPending
  have hla : f.Later g.abortPending := hl.trans (later_abortPending g)
  have hslot : g.abortPending.slot = g.slot := by rw [abortPending_eq]
  have hepoch : g.abortPending.epoch = g.epoch := by rw [abortPending_eq]
  rw [← hslot, ← hepoch] at he
  rcases he with ⟨hs, he⟩ | ⟨e, hs, he⟩
  · have hw := upkeep_endDisconnect hr n (hga.passEpoch hs)
      ⟨d, hla.disconnects n d hd, fun e t hj => by rw [hp] at hj; exact absurd hj (by simp)⟩
    obtain ⟨k, hk, -, hlk⟩ := endDisconnect_eq hr n (hga.passEpoch hs)
    rw [he]
    refine ⟨hw, k, _, hk, ?_⟩
    have hpass : g.abortPending.Later
        { g.abortPending with slot := none, epoch := g.abortPending.epoch + 1 } :=
      { Later.refl g.abortPending with epoch := Nat.le_succ _ }
    exact (hla.trans hpass).trans hlk
  · rw [he]
    exact ⟨hga.letGo hs (hla.disconnects n d hd) hp _, _, _, rfl, hla.trans (later_letGo e _)⟩

end Orderly

/-- Whatever answers they get on the way, operations keep the bookkeeping, and they leave tasks that
existed where they were. -/
theorem conducted_upkeep (may : Conduct) : Conducted may (WellFormed may) fun _ => Later where
  toFramed := framed_upkeep may
  start hr _ _ retries f hf := (started_start _ retries f).upkeep hr hf
  stop hr _ _ f hf := upkeep_stop hr hf
  reconnect hr _ _ delay retries f hf := by
    have hadd : (f.addReconnect delay retries).2.WellFormed may := hf.appendReconnect hf.claim rfl
    obtain ⟨hw, g, phase, he, -, hl⟩ := upkeep_beginReconnect hr f.reconnects.length _ hadd
    refine ⟨hw, ?_⟩
    rw [he]
    exact ((later_addReconnect delay retries f).trans hl).setReconnect (Nat.le_refl _) phase
  disconnect hr _ _ f hf := by
    have hnew : f.addDisconnect.2.disconnects[f.disconnects.length]? = some {} := by
      simp [addDisconnect]
    obtain ⟨hw, g, phase, he, hl⟩ := upkeep_beginDisconnect hr f.disconnects.length
      hf.addDisconnect ⟨_, hnew, rfl⟩
    refine ⟨hw, ?_⟩
    rw [he]
    exact ((later_addDisconnect f).trans hl).setDisconnect (Nat.le_refl _) phase

/-- Answers at every depth keep the bookkeeping. -/
lemma orderly_respond (may : Conduct) (depth : Nat) : Orderly may (Feed.respond depth) :=
  (conducted_upkeep may).respond depth

end EventFeed.Feed
